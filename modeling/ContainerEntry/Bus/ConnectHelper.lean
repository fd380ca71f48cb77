import ContainerEntry.Process.Program
import ContainerEntry.Text.Utf8

/-!
# The connect helper

A small program that connects a socket inside another mount namespace.  It inherits the socket and
a handle of the namespace, joins the namespace, and connects the socket to the path that is its only
word behind its name.  The socket is the same one that its parent holds, and it stays connected when
the helper has gone.

Each step can fail, and the helper can be cut short anywhere: it may break down, and a signal may
kill it before its first step, between two steps, and behind the last one before it exits.  The state
that a run leaves behind is what the parent's socket is worth.
-/

namespace ContainerEntry.Bus

/-- A mount namespace: the tree of files that a process sees. -/
inductive MountNamespace where
  /-- That of the host. -/
  | host
  /-- That of a container's leading process. -/
  | ofLeader (leader : Int)
  deriving DecidableEq, Repr

/-- What a socket is connected to. -/
structure Peer where
  /-- The namespace in which the path was looked up. -/
  place : MountNamespace
  /-- The path. -/
  path : Bytes
  deriving DecidableEq, Repr

namespace ConnectHelper

/-- A step of the helper. -/
inductive Step where
  /-- It reads its words as texts. -/
  | decode
  /-- It counts its words. -/
  | count
  /-- It joins the namespace. -/
  | join
  /-- It makes an address of the path. -/
  | address
  /-- It connects the socket. -/
  | connect
  deriving DecidableEq, Repr

/-- The steps in order. -/
def steps : List Step := [.decode, .count, .join, .address, .connect]

/-- What the system refuses to the helper. -/
structure Refusals where
  /-- Joining the namespace. -/
  join : Option Errno
  /-- Making the address. -/
  address : Option Errno
  /-- Connecting the socket. -/
  connect : Option Errno
  deriving DecidableEq, Repr

/-- A call to the system, with its answer; `none` stands for success. -/
inductive Call where
  /-- Joining a namespace. -/
  | join (place : MountNamespace) (answer : Option Errno)
  /-- Connecting the socket. -/
  | connect (peer : Peer) (answer : Option Errno)
  deriving DecidableEq, Repr

/-- How far a run has come. -/
structure State where
  /-- The namespace that the helper is in. -/
  place : MountNamespace
  /-- The calls that it has made. -/
  calls : List Call
  /-- What the socket is connected to. -/
  peer : Option Peer
  deriving DecidableEq, Repr

/-- How a run ends. -/
inductive Finish where
  /-- The helper exits. -/
  | exits (code : Int)
  /-- It breaks down. -/
  | breaks
  /-- A signal of this number kills it. -/
  | killed (signal : Nat)
  deriving DecidableEq, Repr

/-- The code of a program that breaks down. -/
def breakdownCode : Nat := 101

/-- The code that the parent sees, unless a signal killed the helper. -/
def Finish.code? : Finish → Option Nat
  | .exits code => some (code % 256).toNat
  | .breaks => some breakdownCode
  | .killed _ => none

/-- How a run ends that ends as some other program does. -/
def Finish.ofEnding : Ending → Finish
  | .exits code => .exits code
  | .dies signal => .killed signal.number

/-- What cuts a run short. -/
inductive Blow where
  /-- The helper breaks down. -/
  | breaks
  /-- A signal of this number kills it. -/
  | kills (signal : Nat)
  deriving DecidableEq, Repr

/-- How a run ends that is cut short. -/
def Blow.finish : Blow → Finish
  | .breaks => .breaks
  | .kills signal => .killed signal

/-- A run of the helper. -/
structure Run where
  /-- How far it came. -/
  state : State
  /-- The step that failed and ended it. -/
  refused : Option Step
  /-- How it ended. -/
  finish : Finish
  /-- What it wrote to the standard error. -/
  message : Bytes
  deriving DecidableEq, Repr

/-- What a run is given: its words with its name in front, the namespace of the handle, and what is
refused to it. -/
structure Setting where
  /-- The words. -/
  words : List Bytes
  /-- The namespace of the handle. -/
  target : MountNamespace
  /-- What is refused. -/
  refusals : Refusals

namespace Setting

variable (g : Setting)

/-- The path that the socket is to be connected to. -/
def path : Bytes := (g.words.drop 1).headD []

/-- The state behind a step, whether or not the step succeeded. -/
def after (s : State) : Step → State
  | .decode | .count | .address => s
  | .join =>
    { s with
      place := if g.refusals.join.isNone then g.target else s.place
      calls := s.calls ++ [.join g.target g.refusals.join] }
  | .connect =>
    let peer : Peer := ⟨s.place, g.path⟩
    { s with
      calls := s.calls ++ [.connect peer g.refusals.connect]
      peer := if g.refusals.connect.isNone then some peer else s.peer }

/-- The helper's name in front of what it writes. -/
def label : Bytes := "porthole-nsconnect: "

/-- How a step that fails ends the helper, and what is written about it; `none` for a step that
succeeds.  Words that are no texts break the helper down. -/
def fails : Step → Option (Finish × Bytes)
  | .decode => if g.words.all Text.isUtf8 then none else some (.breaks, [])
  | .count =>
    if (g.words.drop 1).length = 1 then none
    else some (.exits 1, "usage: porthole-nsconnect <socket-path>\n")
  | .join => g.refusals.join.map fun e => (.exits 2, label ++ "setns: " ++ e.symbolic ++ "\n")
  | .address =>
    g.refusals.address.map fun e =>
      (.exits 1, label ++ "invalid socket path " ++ g.path ++ ": " ++ e.symbolic ++ "\n")
  | .connect =>
    g.refusals.connect.map fun e =>
      (.exits 3, label ++ "connect " ++ g.path ++ ": " ++ e.symbolic ++ "\n")

/-- Runs steps; `cut` tells behind how many of them the run is cut short. -/
def runFrom : (cut : Option (Nat × Blow)) → State → List Step → Run
  | some (0, blow), s, _ => ⟨s, none, blow.finish, []⟩
  | _, s, [] => ⟨s, none, .exits 0, []⟩
  | cut, s, step :: rest =>
    match g.fails step, cut with
    | none, cut => runFrom (cut.map fun c => (c.1 - 1, c.2)) (g.after s step) rest
    | some (_, message), some (1, blow) => ⟨g.after s step, none, blow.finish, message⟩
    | some (finish, message), _ => ⟨g.after s step, some step, finish, message⟩

/-- Runs the helper in a namespace. -/
def run (place : MountNamespace) (cut : Option (Nat × Blow)) : Run :=
  g.runFrom cut ⟨place, [], none⟩ steps

end Setting

end ConnectHelper

end ContainerEntry.Bus
