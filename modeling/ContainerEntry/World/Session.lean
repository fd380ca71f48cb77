import ContainerEntry.Process.ExitStatus
import ContainerEntry.Relay.Delivery
import ContainerEntry.World.Door

/-!
# A session

What a session with a container looks like from outside.  The program behind the door gets the
size of the host's terminal, prints, and may wait for typing, for a signal or for another size.
What it prints appears where the streams put it, raw if and only if what is typed goes to it.  How
it ended is known from its wait status, or from the properties of its unit.
-/

namespace ContainerEntry

open Bytes Entry

namespace World

/-- The bus interface on which a unit publishes how its process ended. -/
def serviceInterface : Bytes := "org.freedesktop.systemd1.Service"

/-- How a unit's process ended, asked property by property. -/
def unitStatus (w : World) (unit : Bytes) : Except Failure ExitStatus × List BusCall :=
  let code : Bytes := "ExecMainCode"
  let status : Bytes := "ExecMainStatus"
  let call (property : Bytes) : BusCall :=
    .getProperty serviceInterface property (Door.busLabel unit)
  match w.unitEnd with
  | (none, _) => (.error (.bus (.property code unit)), [call code])
  | (some _, none) => (.error (.bus (.property status unit)), [call code, call status])
  | (some c, some s) => (.ok (ExitStatus.ofUnit c s), [call code, call status])

/-- How a workload ended, as its door reports it. -/
def workloadStatus (w : World) (boot : Bool) (script : Script) :
    Except Failure ExitStatus × List BusCall :=
  if boot then w.unitStatus w.unit else (ExitStatus.ofWaitStatus 0 script.ending.status, [])

/-- Whether something happens to a session whose terminal is on these streams. -/
def intervenes (w : World) (streams : Streams) : Bool :=
  streams.outputTarget.isSome && w.intervention.happens

/-- The signal that is passed on to a session. -/
def passedOn (w : World) (streams : Streams) : Option Signal :=
  if w.intervenes streams then
    w.intervention.signal.bind fun s =>
      if Relay.forwardedSignals.contains s then some s else none
  else none

/-- The new size of a session's terminal. -/
def newSize (w : World) (streams : Streams) : Option WindowSize :=
  if w.intervenes streams then w.intervention.resize else none

/-- What is typed into a session. -/
def typedInto (w : World) (streams : Streams) : Bytes :=
  if w.intervenes streams && streams.stdin then w.intervention.typed.getD [] else []

/-- Whether everything that a script waits for comes. -/
def serves (w : World) (streams : Streams) (script : Script) : Bool :=
  streams.isEmpty ||
    ((!script.awaitsResize || (w.newSize streams).isSome) &&
      (!script.awaitsSignal || (w.passedOn streams).isSome) &&
      (script.reads.getD 0 ≤ (w.typedInto streams).length))

/-- What a program behind a door has seen when it ends. -/
def sightingOf (w : World) (boot : Bool) (streams : Streams) (script : Script)
    (s : Sighting) : Sighting :=
  if streams.isEmpty then s
  else { s with
    size := some w.size
    resized := if script.awaitsResize then w.newSize streams else none
    input := script.reads.map fun n => (w.typedInto streams).take n
    got := if script.awaitsSignal && !boot then w.passedOn streams else none }

/-- What the program that signals a unit was given. -/
def unitSignalled (w : World) (boot : Bool) (streams : Streams) (machine : Bytes) :
    List Sighting :=
  match boot, w.passedOn streams with
  | true, some signal =>
    let words := Door.systemctlKillArgv machine w.unit signal.number
    match w.startProgram w.environ words with
    | .ok started => started.sighting.toList
    | .error _ => []
  | _, _ => []

/-- The report of a session in a container. -/
def session (w : World) (container : Container) (user : Bytes) (streams : Streams)
    (passage : Passage) : Report :=
  let boot := container.config.boot
  let script := (passage.started.map (·.script)).getD ⟨[], false, none, false, .exits 0⟩
  let (status, statusCalls) := w.workloadStatus boot script
  let driven := Relay.drive streams {
    runtime := none, hostForSize := none, masterForSize := none, resize := none
    handlers := none, door := passage.answer, raw := none, hostForInput := none
    masterForInput := none, startInput := none, hostForOutput := none, startOutput := none
    waiter := none, wait := status, restore := none, isShared := false }
  let r : Report := { calls := passage.calls, isRestored := !driven.ledger.isRaw }
  let r := w.write r .stderr passage.message
  match passage.started, driven.outcome with
  | none, .returned (.error failure) => w.fail r failure
  | none, _ => r
  | some started, .replaced =>
    let r := w.write r .stdout script.output
    let r := w.write r .stderr started.message
    { r with ending := some script.ending, sightings := started.sighting.toList }
  | some started, .returned result =>
    let isRaw := streams.stdin
    let r := w.write r .stderr started.message
    let r :=
      if streams.isEmpty then w.write r .stdout script.output
      else if streams.outputTarget.isSome then r.appear isRaw script.output
      else r
    let r := { r with
      rawDuring := if w.intervenes streams then some isRaw else none
      sightings := w.unitSignalled boot streams (container.machineName user) ++
        (started.sighting.map (w.sightingOf boot streams script)).toList }
    if !w.serves streams script then r
    else
      let r := { r with calls := r.calls ++ statusCalls }
      match result with
      | .ok code => r.exit code
      | .error failure => w.fail r failure

end World

end ContainerEntry
