import ContainerEntry.Bus.Registry
import ContainerEntry.CommandLine.Grammar
import ContainerEntry.Door.Words
import ContainerEntry.Entry.Launch
import ContainerEntry.Process.Program
import ContainerEntry.Pty.Client
import ContainerEntry.Stop
import ContainerEntry.Terminal

/-!
# The world of a program

All that a program sees of its machine: files and who listens on sockets, accounts, variables, the
terminal it was started on, the bus, the processes that live, and the programs that it may start.
A program that is started follows a script; what it was given is put down in a sighting.

A run of a program is reported by what can be seen from outside: what it wrote and where, how it
ended, what it asked the bus, and what the programs that it started were given.
-/

namespace ContainerEntry

open Bytes

/-- What a scripted program does. -/
structure Script where
  /-- What it writes. -/
  output : Bytes
  /-- Whether it waits until its terminal has another size. -/
  awaitsResize : Bool
  /-- How many bytes it reads from its terminal. -/
  reads : Option Nat
  /-- Whether it waits for a signal. -/
  awaitsSignal : Bool
  /-- How it ends. -/
  ending : Ending
  deriving DecidableEq, Repr

/-- A program of the machine. -/
inductive Executable where
  /-- The connect helper. -/
  | connectHelper
  /-- A program of this name that follows a script. -/
  | scripted (name : Bytes) (script : Script)
  deriving DecidableEq, Repr

/-- What a program that was started was given. -/
structure Sighting where
  /-- The program's name. -/
  tool : Bytes
  /-- Its words behind the name. -/
  words : List Bytes
  /-- The value of the variable that marks processes started by an entry. -/
  mark : Option Bytes
  /-- The size of its terminal. -/
  size : Option WindowSize := none
  /-- The size that its terminal got later. -/
  resized : Option WindowSize := none
  /-- What it read from its terminal. -/
  input : Option Bytes := none
  /-- The signal that it got. -/
  got : Option Signal := none
  /-- The environment and the process of a workload. -/
  workload : Option (Environ × Entry.Process) := none

/-- What happens to a session once its output has appeared on the host's terminal. -/
structure Intervention where
  /-- What is typed. -/
  typed : Option Bytes
  /-- The signal that is sent. -/
  signal : Option Signal
  /-- The size that the terminal gets. -/
  resize : Option WindowSize
  deriving DecidableEq, Repr

/-- Whether anything happens. -/
def Intervention.happens (i : Intervention) : Bool :=
  i.typed.isSome || i.signal.isSome || i.resize.isSome

/-- What the system refuses to a process of this machine. -/
structure Privileges where
  /-- Joining another namespace. -/
  join : Option Errno
  /-- Setting the supplementary groups. -/
  setGroups : Option Errno
  /-- Setting the group. -/
  setGroup : Option Errno
  /-- Setting the user. -/
  setUser : Option Errno
  deriving DecidableEq, Repr

/-- Texts that are no rule of this library. -/
structure Texts where
  /-- What a parser or a bus library says about a failure. -/
  detail : Bytes
  /-- What is written about a command line that is refused. -/
  usage : CommandLine.Refusal → Bytes
  /-- The completion script for a shell. -/
  completion : Bytes → Bytes
  /-- What is written about a variable that is no text. -/
  undecodable : Bytes × Bytes → Bytes

/-- What a program sees. -/
structure World where
  /-- The files, with the directory that the program was started in. -/
  files : Filesystem
  /-- The terminal services, by their sockets. -/
  services : Pty.Services
  /-- The sockets on which a container's bus listens. -/
  containerBuses : List Inode
  /-- The locked inodes. -/
  locked : List Inode
  /-- The inodes that the supervisor of a container has locked. -/
  supervisor : List Inode
  /-- The programs, by their files. -/
  programs : List (Inode × Executable)
  /-- The accounts. -/
  accounts : List Account
  /-- The groups that name a user as a member. -/
  groupsOf : Account → List Nat
  /-- What is refused. -/
  privileges : Privileges
  /-- The variables of the program. -/
  environ : List (Bytes × Bytes)
  /-- The standard streams that are on the host's terminal. -/
  onTerminal : Entry.Streams
  /-- The size of the host's terminal. -/
  size : WindowSize
  /-- The host's bus. -/
  registry : Registry
  /-- The processes whose namespaces can be joined. -/
  living : List Int
  /-- The identifier of the next unit. -/
  unitId : Door.UnitId
  /-- How a unit's process ended, as far as its properties can be read. -/
  unitEnd : Option Int × Option Int
  /-- What happens during a session. -/
  intervention : Intervention
  /-- Texts of other libraries. -/
  texts : Texts

/-- What can be seen of a run. -/
structure Report where
  /-- How it ended; `none` while it waits for ever. -/
  ending : Option Ending := none
  /-- What it wrote to the standard output, if that is no terminal. -/
  stdout : Bytes := []
  /-- What it wrote to the standard error, if that is no terminal. -/
  stderr : Bytes := []
  /-- What appeared on the host's terminal. -/
  screen : Bytes := []
  /-- Whether the host's terminal was raw when something happened to the session. -/
  rawDuring : Option Bool := none
  /-- Whether the host's terminal is not raw afterwards. -/
  isRestored : Bool := true
  /-- The requests that reached a bus. -/
  calls : List BusCall := []
  /-- What other programs were given. -/
  sightings : List Sighting := []

/-- Bytes as a terminal shows them that processes its output. -/
def processed (bytes : Bytes) : Bytes :=
  bytes.flatMap fun b => if b = lineFeed then [carriageReturn, lineFeed] else [b]

namespace Report

/-- The report with bytes on the screen. -/
def appear (r : Report) (isRaw : Bool) (bytes : Bytes) : Report :=
  { r with screen := r.screen ++ if isRaw then bytes else processed bytes }

/-- The report with bytes written to a standard stream of a program. -/
def write (r : Report) (onTerminal : Entry.Streams) (stream : Entry.Stream) (bytes : Bytes) :
    Report :=
  if onTerminal.has stream then r.appear false bytes
  else match stream with
    | .stdin => r
    | .stdout => { r with stdout := r.stdout ++ bytes }
    | .stderr => { r with stderr := r.stderr ++ bytes }

/-- The report of a program that exits. -/
def exit (r : Report) (code : Int) : Report := { r with ending := some (.exits code) }

/-- What a program writes about a failure. -/
def complaint (detail : Bytes) (f : Failure) : Bytes := "Error: " ++ f.message detail ++ "\n"

end Report

namespace World

/-- The report with bytes written to a standard stream. -/
def write (w : World) (r : Report) (stream : Entry.Stream) (bytes : Bytes) : Report :=
  r.write w.onTerminal stream bytes

/-- The report of a run that a failure ends. -/
def fail (w : World) (r : Report) (f : Failure) : Report :=
  (w.write r .stderr (Report.complaint w.texts.detail f)).exit 1

/-- The report of a run whose command line is refused. -/
def refuse (w : World) (r : CommandLine.Refusal) : Report :=
  (w.write {} (if r.isAnswer then .stdout else .stderr) (w.texts.usage r)).exit r.exitCode

/-- The program that words start in an environment. -/
def program (w : World) (environ : List (Bytes × Bytes)) (words : List Bytes) :
    Except Fault Executable :=
  match Program.start w.files environ words with
  | .error fault => .error fault
  | .ok i =>
    match w.programs.lookup i with
    | none => .error (.os .badExecutable)
    | some executable => .ok executable

/-- The value of a variable in an environment. -/
def mark (environ : List (Bytes × Bytes)) : Option Bytes := environ.lookup Door.internalVariable

end World

end ContainerEntry
