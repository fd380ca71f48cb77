/-!
# The life of a door

One attempt to enter a container goes through states.  Events that do not fit the state change
nothing, so what is recorded is a legal history whatever order the events come in.
-/

namespace ContainerEntry.Door

/-- Where an attempt stands. -/
inductive State where
  /-- Nothing has happened. -/
  | notStarted
  /-- The door is being opened. -/
  | entering
  /-- The workload runs. -/
  | running
  /-- The door did not open. -/
  | failed
  /-- The workload has ended. -/
  | exited
  /-- Everything is released. -/
  | destroyed
  deriving DecidableEq, Repr

/-- What can happen to an attempt. -/
inductive Event where
  /-- The attempt starts. -/
  | enter
  /-- The door is open. -/
  | entered
  /-- The door stayed shut. -/
  | fail
  /-- The workload ended. -/
  | exit
  /-- Everything was released. -/
  | destroy
  deriving DecidableEq, Repr

namespace State

/-- The state that an event leads to, if it fits. -/
def next? : State → Event → Option State
  | .notStarted, .enter => some .entering
  | .entering, .entered => some .running
  | .entering, .fail => some .failed
  | .running, .exit => some .exited
  | .running, .destroy => some .destroyed
  | .exited, .destroy => some .destroyed
  | _, _ => none

/-- The state after an event. -/
def record (s : State) (e : Event) : State := (s.next? e).getD s

/-- The state after events, one after another. -/
def recordAll (s : State) (events : List Event) : State := events.foldl record s

/-- The states before the first event and after each. -/
def history (s : State) : List Event → List State
  | [] => [s]
  | e :: rest => s :: history (s.record e) rest

/-- The events, of those that come one after another, that fit the state they come in. -/
def accepted (s : State) : List Event → List Event
  | [] => []
  | e :: rest =>
    match s.next? e with
    | some next => e :: accepted next rest
    | none => accepted s rest

/-- The whole histories of an attempt. -/
def histories : List (List Event) :=
  [[.enter, .fail], [.enter, .entered, .destroy], [.enter, .entered, .exit, .destroy]]

/-- Whether a session is left that has to be released. -/
def needsTeardown (s : State) : Bool := s = .running || s = .exited

/-- The name of a state. -/
def name : State → String
  | .notStarted => "NotStarted"
  | .entering => "Entering"
  | .running => "Running"
  | .failed => "Failed"
  | .exited => "Exited"
  | .destroyed => "Destroyed"

end State

/-- The event of a name. -/
def Event.ofName? : String → Option Event
  | "enter" => some .enter
  | "entered" => some .entered
  | "fail" => some .fail
  | "exit" => some .exit
  | "destroy" => some .destroy
  | _ => none

end ContainerEntry.Door
