import ContainerEntry.Bus.ConnectHelper

/-!
# Dialling into a container

The host's process never leaves its namespace.  It creates a socket, gives a duplicate of it and a
handle of the leader's mount namespace to the connect helper, and waits for the helper to connect
it.  Whether it did can only be told from the helper's exit code.

Everything that is opened has an owner, who closes it behind a part of the dial (`owning`).  The
socket is closed behind a dial that fails, and handed to the caller by one that succeeds
(`handingOver`).
-/

namespace ContainerEntry.Bus

/-- What the host's process opens for a dial. -/
inductive Handle where
  /-- The handle of the leader's namespace. -/
  | mountNamespace
  /-- The socket. -/
  | socket
  /-- The duplicate of the socket that the helper gets. -/
  | duplicate
  deriving DecidableEq, Repr

/-- The host's process while it dials. -/
structure Dialler where
  /-- The namespace that it is in. -/
  place : MountNamespace
  /-- What it holds open. -/
  held : List Handle
  /-- The run of the helper, if it was started. -/
  helper : Option ConnectHelper.Run
  deriving DecidableEq, Repr

/-- A part of a dial: what comes of it, and the process afterwards. -/
abbrev Dialling (α : Type) := Dialler → Except Failure α × Dialler

namespace Dialling

variable {α : Type}

/-- Opens something, unless that is refused, and closes it behind what is done with it. -/
def owning (handle : Handle) (refusal : Option Failure) (body : Dialling α) : Dialling α := fun d =>
  match refusal with
  | some failure => (.error failure, d)
  | none =>
    let (result, d) := body { d with held := handle :: d.held }
    (result, { d with held := d.held.erase handle })

/-- Opens something, unless that is refused, and closes it behind what fails. -/
def handingOver (handle : Handle) (refusal : Option Failure) (body : Dialling α) :
    Dialling α := fun d =>
  match refusal with
  | some failure => (.error failure, d)
  | none =>
    match body { d with held := handle :: d.held } with
    | (.ok a, d) => (.ok a, d)
    | (.error failure, d) => (.error failure, { d with held := d.held.erase handle })

end Dialling

/-- What the system refuses while a socket is made ready for the helper. -/
structure DialRefusals where
  /-- Opening the leader's namespace. -/
  openNamespace : Option Fault
  /-- Creating the socket. -/
  createSocket : Option Errno
  /-- Duplicating the socket. -/
  duplicate : Option Fault
  deriving DecidableEq, Repr

/-- The file that stands for a process's mount namespace. -/
def namespacePath (leader : Int) : Bytes := "/proc/" ++ Text.decimalInt leader ++ "/ns/mnt"

/-- A program in the place of the helper, by its words, the namespace in which it is started and that
of the handle that it gets. -/
abbrev HelperProgram :=
  (words : List Bytes) → (place target : MountNamespace) → ConnectHelper.Run

/-- A socket that was dialled. -/
structure Dialled where
  /-- What the socket is connected to. -/
  peer : Option Peer
  deriving DecidableEq, Repr

/-- Whether a socket that was dialled is connected. -/
def Dialled.isConnected (s : Dialled) : Bool := s.peer.isSome

/-- Runs the helper, unless it cannot be started, and waits for it. -/
def runHelper (leader : Int) (helper busPath : Bytes) (program : Except Fault HelperProgram) :
    Dialling Dialled := fun d =>
  match program with
  | .error fault => (.error (.namespaceEntry leader (.runHelper helper fault)), d)
  | .ok program =>
    let run := program [helper, busPath] d.place (.ofLeader leader)
    let result : Except Failure Dialled :=
      match run.finish.code? with
      | some 0 => .ok ⟨run.state.peer⟩
      | code => .error (.namespaceEntry leader (.helper (code.map Int.ofNat)))
    (result, { d with helper := some run })

/-- Connects a socket inside a leader's mount namespace by a helper that is this program, or that
cannot be started. -/
def connectInNamespace (leader : Int) (helper busPath : Bytes) (r : DialRefusals)
    (program : Except Fault HelperProgram) : Dialling Dialled :=
  .owning .mountNamespace
    (r.openNamespace.map fun fault =>
      .namespaceEntry leader (.openNamespace (namespacePath leader) fault)) <|
  .handingOver .socket
    (r.createSocket.map fun e => .namespaceEntry leader (.createSocket e)) <|
  .owning .duplicate (r.duplicate.map .io) <|
  runHelper leader helper busPath program

end ContainerEntry.Bus
