import ContainerEntry.Signal

/-!
# Delivering signals to a session

A session without an init system is a child process, and signals go to it by its process number.
Two threads meet there.  One waits for the child and then notes that it was reaped, first in the
session and then by emptying the slot from which signals are delivered.  The others deliver: each
looks into the slot, looks whether the child was reaped, and only then sends.

`Waiter` and `Delivery` say where each thread stands, and `Race.step?` is one step of one of them,
so a run is a list of turns.  The process number is the child's until the child is reaped and
belongs to nobody, or to somebody else, afterwards.
-/

namespace ContainerEntry.Relay

/-- The signals that are passed on to a session. -/
def forwardedSignals : List Signal :=
  [Signal.interrupt, Signal.quit, Signal.hangUp, Signal.terminalStop]

/-- Where the thread stands that waits for the child. -/
inductive Waiter where
  /-- The child has not been reaped. -/
  | waiting
  /-- The child has been reaped. -/
  | reaped
  /-- The session says so. -/
  | marked
  /-- The slot is empty. -/
  | cleared
  deriving DecidableEq, Repr

/-- Where the delivery of one signal stands. -/
inductive Delivery where
  /-- It has not begun. -/
  | idle
  /-- It found the session in the slot. -/
  | found
  /-- It found the child not reaped. -/
  | allowed
  /-- It has sent; `late` tells that the child had been reaped. -/
  | sent (late : Bool)
  /-- It found the slot empty or the child reaped. -/
  | dropped
  deriving DecidableEq, Repr

/-- All threads of one session. -/
structure Race where
  /-- The thread that waits. -/
  waiter : Waiter
  /-- The deliveries. -/
  deliveries : List Delivery
  deriving DecidableEq, Repr

namespace Race

/-- A session that has just been put into the slot. -/
def start (n : Nat) : Race := ⟨.waiting, List.replicate n .idle⟩

/-- Whose turn it is. -/
inductive Turn where
  /-- The thread that waits. -/
  | waiter
  /-- The delivery of this number. -/
  | delivery (i : Nat)
  deriving DecidableEq, Repr

/-- The next place of the thread that waits. -/
def Waiter.next? : Waiter → Option Waiter
  | .waiting => some .reaped
  | .reaped => some .marked
  | .marked => some .cleared
  | .cleared => none

/-- The next place of a delivery beside a thread that waits. -/
def Delivery.next? (w : Waiter) : Delivery → Option Delivery
  | .idle => some (if w = .cleared then .dropped else .found)
  | .found => some (if w = .marked || w = .cleared then .dropped else .allowed)
  | .allowed => some (.sent (w != .waiting))
  | .sent _ | .dropped => none

/-- The threads after a turn, or `none` when it cannot be taken. -/
def step? (r : Race) : Turn → Option Race
  | .waiter => (Waiter.next? r.waiter).map fun w => { r with waiter := w }
  | .delivery i =>
    (r.deliveries[i]?.bind (Delivery.next? r.waiter)).map fun d =>
      { r with deliveries := r.deliveries.set i d }

/-- The threads after turns; one that cannot be taken changes nothing. -/
def run (r : Race) (turns : List Turn) : Race :=
  turns.foldl (fun r turn => (r.step? turn).getD r) r

/-- Whether a signal was sent to a process number that was no longer the child's. -/
def isLate (r : Race) : Bool := r.deliveries.any fun d => d == .sent true

end Race

end ContainerEntry.Relay
