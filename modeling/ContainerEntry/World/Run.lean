import ContainerEntry.CommandLine.Invocation
import ContainerEntry.World.Session

/-!
# Running the programs

The host's program reads its settings, finds out who calls, opens the container, and then does what
its command line asks for.  The order shows: whatever fails first is what the user reads, and nothing
is asked of the bus before the container is known.

The helper inside a container checks what it is asked before it changes anything, and writes about
later failures to the standard error that it has by then.
-/

namespace ContainerEntry

open Bytes Entry CommandLine

namespace World

/-! ### The host's program -/

/-- The directory that an entry starts in when no other is asked for. -/
def startDirectory (w : World) : Bytes := w.files.currentPath?.getD "/"

/-- Goes on with a value, or ends the run with the failure. -/
def orFail {α : Type} (w : World) (value : Except Failure α) (next : α → Report) : Report :=
  match value with
  | .error failure => w.fail {} failure
  | .ok a => next a

/-- Goes on with the caller. -/
def withCaller (w : World) (next : Caller → Report) : Report :=
  match Caller.current w.accounts w.environ with
  | .error (.failed failure) => w.fail {} failure
  | .error (.undecodable name value) =>
    (w.write {} .stderr (w.texts.undecodable (name, value))).exit 101
  | .ok caller => next caller

/-- Goes on with the settings and the caller. -/
def withSettings (w : World) (config : Bytes) (next : Settings → Caller → Report) : Report :=
  w.orFail (Settings.loadOrStandard w.files config) fun settings =>
    w.withCaller (next settings)

/-- Goes on with the settings, the caller and a container of the caller's. -/
def withContainer (w : World) (config name : Bytes)
    (next : Settings → Caller → Container → Report) : Report :=
  w.withSettings config fun settings caller =>
    w.orFail (Container.openNamed w.files settings.dataDir caller.name name)
      (next settings caller)

/-- What is entered with, but for the terminal. -/
def plainSpec (w : World) (i : Invocation) (caller : Caller) (container : Container)
    (workdir : Option Bytes) (noReplay : Bool) (words : List Bytes) : Spec :=
  (Spec.plain caller.uid (workdir.getD w.startDirectory)).changes [
    .assignAll (container.suit caller.environ).toList,
    .noReplay noReplay,
    .verbose i.verbose,
    .command words]

/-- The terminal of a container, if some stream of the host is on one. -/
def containerTerminal (w : World) (settings : Settings) (container : Container) :
    Except Failure (Option Pty.Master) :=
  if w.onTerminal.isEmpty then .ok none
  else (Pty.request w.files w.services (container.ptySocket settings)).map some

/-- Enters a container. -/
def enterContainer (w : World) (settings : Settings) (caller : Caller) (container : Container)
    (spec : Spec) : Report :=
  w.orFail (w.containerTerminal settings container) fun master =>
    let spec := match master with
      | none => spec
      | some master => spec.change (.pty master.path w.onTerminal)
    w.session container caller.name w.onTerminal
      (w.enterDoor settings container caller.name spec)

/-- Stops a container. -/
def stopContainer (w : World) (caller : Caller) (container : Container) (signal : StopSignal)
    (everyProcess : Bool) : Report :=
  let result := stop w.registry ⟨w.files, w.locked⟩ w.supervisor container caller.name signal
    everyProcess
  let r : Report := { calls := result.calls }
  match result.outcome with
  | .stopped _ =>
    (w.write r .stdout ("Stopped container: " ++ container.name ++ [lineFeed])).exit 0
  | .failed failure => w.fail r failure
  | .waiting => r

/-- Does what a command line asks for. -/
def execute (w : World) (i : Invocation) : Report :=
  match i.command with
  | .completion shell => (w.write {} .stdout (w.texts.completion shell)).exit 0
  | .enter name workdir noReplay words =>
    w.withContainer i.config name fun settings caller container =>
      w.enterContainer settings caller container
        (w.plainSpec i caller container workdir noReplay words)
  | .list patterns =>
    w.withSettings i.config fun settings caller =>
      w.orFail (Inventory.list w.files settings.dataDir caller.name) fun containers =>
        w.orFail (Inventory.filter containers patterns) fun kept =>
          (w.write {} .stdout (kept.flatMap fun c => c.name ++ [lineFeed])).exit 0
  | .info name =>
    w.withContainer i.config name fun _ caller container =>
      let (info, calls) := Inventory.Info.gather w.registry container caller.name
      (w.write { calls := calls } .stdout info.describe).exit 0
  | .kill name signal everyProcess =>
    w.withContainer i.config name fun _ caller container =>
      w.stopContainer caller container signal everyProcess

/-- Runs the host's program with words behind its name. -/
def run (w : World) (words : List Bytes) : Report :=
  match Invocation.parse words with
  | .error refusal => w.refuse refusal
  | .ok i => w.execute i

/-! ### The helper inside a container -/

/-- What the system answers to a launch. -/
def system (w : World) : System where
  startSession := none
  openTerminal _ path := w.files.openForUse path
  replaceStream _ := none
  account uid := .ok (Account.find? w.accounts uid)
  groupsOf := w.groupsOf
  setGroups := w.privileges.setGroups
  setGroup := w.privileges.setGroup
  setUser := w.privileges.setUser
  changeDirectory path := w.files.directoryAt path
  enterHome path := w.files.directoryAt path

/-- The helper's process when it starts. -/
def rootProcess (w : World) : Entry.Process where
  uid := 0
  gid := 0
  groups := []
  replaced _ := none
  leadsSession := false
  cwd := w.files.here

/-- The report with bytes written to a standard stream that may have been replaced. -/
def writeTo (w : World) (r : Report) (p : Entry.Process) (stream : Entry.Stream)
    (bytes : Bytes) : Report :=
  match p.replaced stream with
  | none => w.write r stream bytes
  | some i =>
    match w.files.node? i with
    | some .terminal => r.appear false bytes
    | _ => r

/-- The report of a helper that a failure ends. -/
def failFrom (w : World) (p : Entry.Process) (f : Failure) : Report :=
  (w.writeTo {} p .stderr (Report.complaint w.texts.detail f)).exit 1

/-- Replaces the helper by the workload. -/
def becomeWorkload (w : World) (request : Request) (p : Entry.Process) (attempt : Attempt) :
    Report :=
  let there := { w with files := { w.files with here := p.cwd } }
  match there.startProgram attempt.environ.toList attempt.words with
  | .error fault => w.failFrom p (request.notRun fault)
  | .ok started =>
    let r := w.writeTo {} p .stdout started.script.output
    let r := w.writeTo r p .stderr started.message
    { r with
      ending := some started.script.ending
      sightings := (started.sighting.map fun s =>
        { s with workload := some (attempt.environ, p) }).toList }

/-- What a command line asks of the helper, with its words split. -/
def requestOf (i : HelperInvocation) (environ : List (Bytes × Bytes)) (command : List Bytes) :
    Request where
  stdin := i.stdin
  stdout := i.stdout
  stderr := i.stderr
  uid := i.uid
  cwd := i.cwd
  noReplay := i.noReplay
  environ := environ
  command := command

/-- Runs the helper with words behind its name. -/
def runHelper (w : World) (words : List Bytes) : Report :=
  match HelperInvocation.parse words with
  | .error refusal => w.refuse refusal
  | .ok i =>
    match splitEnviron i.words with
    | .error failure => (w.fail {} failure).exit 2
    | .ok (environ, command) =>
      let request := requestOf i environ command
      let launched := launch w.system w.environ request w.rootProcess
      match launched.attempt with
      | .error failure => w.failFrom launched.process failure
      | .ok attempt => w.becomeWorkload request launched.process attempt

end World

end ContainerEntry
