import ContainerEntry.Door.Lifecycle
import ContainerEntry.Entry.Streams
import ContainerEntry.Process.ExitStatus

/-!
# Driving one session

A session with a terminal goes through many calls that can fail: it duplicates descriptors, installs
signal handlers, enters through the door, makes the host's terminal raw, starts a copy in each
direction, waits for the workload and puts everything back.  `drive` follows the answers to these
calls and keeps a `Ledger` of what is held and done, so that what each early return leaves behind
can be read off.

Before the door is entered, every failure gives everything back.  Once a workload runs, a failure to
start a copy returns at once: the terminal is restored on the way out, but nobody waits for the
workload, and the session stays in the slot from which signals are delivered.  It stays there, too,
when the thread that waits breaks down.

A workload without a terminal may be run in place of this program; then nothing returns.
-/

namespace ContainerEntry.Relay

open Entry

/-- What the door did. -/
inductive DoorAnswer where
  /-- It stayed shut. -/
  | failed (failure : Failure)
  /-- The workload runs in place of this program. -/
  | replaced
  /-- The workload runs beside this program. -/
  | entered
  deriving DecidableEq, Repr

/-- The answers to the calls of a session; `none` stands for success. -/
structure Answers where
  /-- Starting the machinery that runs tasks. -/
  runtime : Option Fault
  /-- Duplicating the host's stream whose size is followed. -/
  hostForSize : Option Fault
  /-- Duplicating the master to set its size. -/
  masterForSize : Option Fault
  /-- Setting the size for the first time. -/
  resize : Option Failure
  /-- Installing the signal handlers. -/
  handlers : Option Fault
  /-- Entering. -/
  door : DoorAnswer
  /-- Making the host's terminal raw. -/
  raw : Option Failure
  /-- Duplicating the host's standard input. -/
  hostForInput : Option Fault
  /-- Duplicating the master for what is typed. -/
  masterForInput : Option Fault
  /-- Starting the copy of what is typed. -/
  startInput : Option Fault
  /-- Duplicating the host's stream for what is printed. -/
  hostForOutput : Option Fault
  /-- Starting the copy of what is printed. -/
  startOutput : Option Fault
  /-- How the thread that waits for the workload broke down, if it did. -/
  waiter : Option Bytes
  /-- Waiting for the workload. -/
  wait : Except Failure ExitStatus
  /-- Restoring the host's terminal. -/
  restore : Option Failure
  /-- Whether a signal is still being delivered when everything else is over. -/
  isShared : Bool

/-- What a session holds and has done. -/
structure Ledger where
  /-- Whether the session holds the container terminal's master. -/
  holdsMaster : Bool
  /-- Whether the relay of signals holds a duplicate of the master. -/
  relayHolds : Bool
  /-- Whether the copy of what is typed was given a duplicate of the master. -/
  inputHolds : Bool
  /-- Whether the copy of what is printed was given the master. -/
  outputHolds : Bool
  /-- Whether the container's terminal got the host's window size. -/
  isSized : Bool
  /-- Whether the host's terminal is raw. -/
  isRaw : Bool
  /-- Whether signals are delivered to the session. -/
  isInSlot : Bool
  /-- How often the workload was waited for. -/
  waits : Nat
  /-- Whether the session was torn down. -/
  isDestroyed : Bool
  /-- The state of the door. -/
  door : Door.State
  deriving DecidableEq, Repr

namespace Ledger

/-- Nothing is held, and nothing has been done. -/
def nothing : Ledger where
  holdsMaster := false
  relayHolds := false
  inputHolds := false
  outputHolds := false
  isSized := false
  isRaw := false
  isInSlot := false
  waits := 0
  isDestroyed := false
  door := .notStarted

/-- The ledger of a session whose door stayed shut. -/
def shut (l : Ledger) : Ledger :=
  { l with holdsMaster := false, relayHolds := false, door := l.door.record .fail }

/-- The ledger of a session that has entered. -/
def entered (l : Ledger) : Ledger := { l with isInSlot := true, door := l.door.record .entered }

/-- The ledger after the terminal's guard was dropped. -/
def restored (l : Ledger) (a : Answers) : Ledger :=
  { l with isRaw := l.isRaw && a.restore.isSome }

/-- The ledger of a session that returns while its workload runs. -/
def abandoned (l : Ledger) (a : Answers) : Ledger := { l.restored a with holdsMaster := false }

/-- The ledger of a session that returns because the thread that waits broke down. -/
def lost (l : Ledger) (a : Answers) : Ledger := { l.abandoned a with waits := l.waits + 1 }

/-- Whether no descriptor of the master is held. -/
def isReleased (l : Ledger) : Bool :=
  !(l.holdsMaster || l.relayHolds || l.inputHolds || l.outputHolds)

end Ledger

/-- What a session came to. -/
inductive DriveOutcome where
  /-- It returned a code, or a failure. -/
  | returned (result : Except Failure Int)
  /-- The workload runs in its place. -/
  | replaced

/-- A session's outcome and what it leaves. -/
structure Driven where
  /-- The outcome. -/
  outcome : DriveOutcome
  /-- What is held and done at that moment. -/
  ledger : Ledger

/-- Steps that go on with a ledger, or end the session with what it leaves. -/
abbrev Steps := Except (Failure × Ledger)

/-- A call that ends the session when it is refused. -/
def require (answer : Option Fault) (left : Ledger) : Steps Unit :=
  match answer with
  | none => .ok ()
  | some fault => .error (.io fault, left)

/-- Everything before the door. -/
def prepare (hasTerminal : Bool) (a : Answers) : Steps Ledger := do
  require a.runtime .nothing
  if hasTerminal then
    require a.hostForSize .nothing
    require a.masterForSize .nothing
  require a.handlers .nothing
  return { Ledger.nothing with
    holdsMaster := hasTerminal
    relayHolds := hasTerminal
    isSized := hasTerminal && a.resize.isNone
    door := Door.State.notStarted.record .enter }

/-- Starts the copy of what is typed, on a terminal that is raw if it can be. -/
def startInput (a : Answers) (l : Ledger) : Steps Ledger := do
  let l := { l with isRaw := a.raw.isNone }
  require a.hostForInput (l.abandoned a)
  require a.masterForInput (l.abandoned a)
  require a.startInput (l.abandoned a)
  return { l with inputHolds := true }

/-- Starts the copy of what is printed, which takes the master over. -/
def startOutput (a : Answers) (l : Ledger) : Steps Ledger := do
  require a.hostForOutput (l.abandoned a)
  require a.startOutput (l.abandoned a)
  return { l with outputHolds := true }

/-- Starts the copies that a set of streams needs. -/
def startCopies (streams : Streams) (a : Answers) (l : Ledger) : Steps Ledger := do
  let l ← if streams.stdin then startInput a l else .ok l
  let l ← if streams.outputTarget.isSome then startOutput a l else .ok l
  return { l with holdsMaster := false }

/-- Waits for the workload and puts everything back. -/
def finish (a : Answers) (l : Ledger) : Ledger :=
  let ended := if a.wait.toOption.isSome then l.door.record .exit else l.door
  let l := { l.restored a with
    waits := l.waits + 1
    isInSlot := false
    relayHolds := false
    door := ended }
  if l.door.needsTeardown && !a.isShared then
    { l with isDestroyed := true, door := l.door.record .destroy }
  else l

/-- The code of a session whose workload was waited for; an end that cannot be read is 1. -/
def exitCode : Except Failure ExitStatus → Except Failure Int
  | .ok status => .ok status.code
  | .error (.wait _) => .ok 1
  | .error failure => .error failure

/-- Runs a session with some of its streams on the container's terminal. -/
def drive (streams : Streams) (a : Answers) : Driven :=
  match prepare (!streams.isEmpty) a with
  | .error (failure, l) => ⟨.returned (.error failure), l⟩
  | .ok l =>
    match a.door with
    | .failed failure => ⟨.returned (.error failure), l.shut⟩
    | .replaced => ⟨.replaced, l⟩
    | .entered =>
      match if streams.isEmpty then .ok l.entered else startCopies streams a l.entered with
      | .error (failure, l) => ⟨.returned (.error failure), l⟩
      | .ok l =>
        match a.waiter with
        | some why => ⟨.returned (.error (.wait (.thread why))), l.lost a⟩
        | none => ⟨.returned (exitCode a.wait), finish a l⟩

end ContainerEntry.Relay
