import ContainerEntry.Bus.Dial
import ContainerEntry.Entry.Spec
import ContainerEntry.Relay.Drive
import ContainerEntry.World.Basic

/-!
# Through a door

The two doors into a container.  A container without an init system is entered by a program that
joins the namespaces of the container's leader; without a terminal it takes this program's place.
A booted container is entered through a unit of its init system: first its bus is dialled, because
only the bus can tell how the unit's process ended, and then the program that starts the unit is
run, always beside this one.

On a host that labels processes a door also gives what it starts the label of a container
(`SecurityLabel.inContainer`).  No host here does, so there is no label to give.
-/

namespace ContainerEntry

open Bytes

/-- A program that was started. -/
structure Started where
  /-- What it does. -/
  script : Script
  /-- What it writes to the standard error. -/
  message : Bytes
  /-- What it was given; the connect helper keeps no record. -/
  sighting : Option Sighting

/-- What came of a door. -/
structure Passage where
  /-- What the door did. -/
  answer : Relay.DoorAnswer
  /-- The requests that reached a bus. -/
  calls : List BusCall
  /-- What helpers wrote to the standard error meanwhile. -/
  message : Bytes
  /-- The program that was started. -/
  started : Option Started

/-- A door that stayed shut. -/
def Passage.shut (failure : Failure) (calls : List BusCall) (message : Bytes) : Passage :=
  ⟨.failed failure, calls, message, none⟩

namespace World

/-- What is refused to the connect helper for a path. -/
def connectRefusals (w : World) (path : Bytes) : Bus.ConnectHelper.Refusals where
  join := w.privileges.join
  address := if Pty.maxSocketPath ≤ path.length then some .nameTooLong else none
  connect :=
    match w.files.existing path true with
    | .error e => some e
    | .ok i => if w.containerBuses.contains i then none else some .connectionRefused

/-- A program in the place of the connect helper. -/
def helperProgram (w : World) : Executable → Bus.HelperProgram
  | .connectHelper => fun words place target =>
    Bus.ConnectHelper.Setting.run ⟨words, target, w.connectRefusals ((words.drop 1).headD [])⟩
      place none
  | .scripted _ script => fun _ place _ => ⟨⟨place, [], none⟩, none, .ofEnding script.ending, []⟩

/-- Connects a socket to a path inside a leader's mount namespace. -/
def dial (w : World) (helper busPath : Bytes) (leader : Int) :
    Except Failure Bus.Dialled × Bus.Dialler :=
  Bus.connectInNamespace leader helper busPath
    ⟨if w.living.contains leader then none else some (.os .noEntry), none, none⟩
    ((w.program w.environ [helper, busPath]).map w.helperProgram) ⟨.host, [], none⟩

/-- Starts a program by words in an environment. -/
def startProgram (w : World) (environ : List (Bytes × Bytes)) (words : List Bytes) :
    Except Fault Started :=
  (w.program environ words).map fun executable =>
    match executable with
    | .connectHelper =>
      -- nothing cuts it short here, so it has a code
      let run := w.helperProgram executable words .host .host
      ⟨⟨[], false, none, false, .exits (run.finish.code?.getD 0)⟩, run.message, none⟩
    | .scripted name script =>
      ⟨script, [], some { tool := name, words := words.drop 1, mark := mark environ }⟩

/-- The variables of a program that is started by an entry. -/
def markedEnviron (w : World) : List (Bytes × Bytes) :=
  ((Environ.ofList w.environ).insert Door.internalVariable "1").toList

/-- Enters a container without an init system. -/
def enterNamespaces (w : World) (settings : Settings) (machine : Bytes) (spec : Entry.Spec) :
    Passage :=
  let (leader, calls) := w.registry.leader machine
  match leader with
  | .error failure => .shut failure calls []
  | .ok leader =>
    let words := Door.nsenterArgv settings.nsenter leader
      (spec.helperArgv settings.entryHelper settings.loginShell)
    match w.startProgram w.markedEnviron words with
    | .error fault =>
      let cause : ExecCause := if spec.pty.isSome then .start fault else .replace fault
      .shut (.exec (words.headD []) cause) calls []
    | .ok started =>
      ⟨if spec.pty.isSome then .entered else .replaced, calls, [], some started⟩

/-- The unit of the next entry. -/
def unit (w : World) : Bytes := Door.unitName w.unitId

/-- Enters a booted container. -/
def enterUnit (w : World) (settings : Settings) (machine : Bytes) (spec : Entry.Spec) :
    Passage :=
  let (leader, calls) := w.registry.leader machine
  match leader with
  | .error failure => .shut failure calls []
  | .ok leader =>
    let (dialled, dialler) := w.dial settings.connectHelper settings.containerBus leader
    let message := (dialler.helper.map (·.message)).getD []
    match dialled with
    | .error failure => .shut failure calls message
    | .ok socket =>
      if !socket.isConnected then .shut .busDial calls message
      else
        let words := Door.systemdRunArgv machine w.unit none
          (spec.helperArgv settings.entryHelper settings.loginShell)
        match w.startProgram w.environ words with
        | .error fault => .shut (.exec (words.headD []) (.start fault)) calls message
        | .ok started => ⟨.entered, calls, message, some started⟩

/-- Enters a container through the door that suits it. -/
def enterDoor (w : World) (settings : Settings) (container : Container) (user : Bytes)
    (spec : Entry.Spec) : Passage :=
  let machine := container.machineName user
  if container.config.boot then w.enterUnit settings machine spec
  else w.enterNamespaces settings machine spec

end World

end ContainerEntry
