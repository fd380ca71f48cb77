import ContainerEntry.World.Run

/-!
# The command line

Runs the host's program on the files of this machine.  Everything that is decided is decided by
`World.run`; this module reads the files that a run can ask for, hands them over and writes what
comes back.

Sockets, terminals and other programs are not reached from here, so the world that is handed over
has none: containers can be listed and described, and whatever needs the bus is told that there is
none.
-/

namespace ContainerEntry.Shell

open Bytes

/-- Bytes as a string, with a replacement character for each broken piece. -/
def asString (bytes : Bytes) : String :=
  (String.fromUTF8? ⟨(Text.display bytes).toArray⟩).getD ""

/-- The files with one more, and the directories that lead to it. -/
def withFile (files : Filesystem) (path content : Bytes) : Filesystem :=
  let directory := (path.reverse.dropWhile (· != slash)).reverse
  ((files.makeDirectories directory).writeFile path content 0o644).toOption.getD files

/-- Reads a file of this machine, if it can be read. -/
def readInto (files : Filesystem) (path : Bytes) : IO Filesystem := do
  try
    let content ← IO.FS.readBinFile (asString path)
    return withFile files path content.toList
  catch _ => return files

/-- Reads the containers below a directory of this machine. -/
def readContainers (files : Filesystem) (directory : Bytes) : IO Filesystem := do
  try
    let entries ← (← IO.FS.realPath (asString directory)).readDir
    entries.foldlM
      (fun files entry => do
        let path := Path.join directory entry.fileName
        if ← entry.path.isDir then
          readInto (files.makeDirectories path) (Path.join path Container.configName)
        else return withFile files path [])
      (files.makeDirectories directory)
  catch _ => return files

/-- The variables that a run can ask for. -/
def readEnviron : IO (List (Bytes × Bytes)) := do
  let names := Caller.forwarded ++ Caller.wrapperVariables ++ [Program.pathVariable]
  let vars ← names.mapM fun name => do
    return (← IO.getEnv (asString name)).map fun value => (name, ofString value)
  return vars.filterMap id

/-- What is written about a command line that is refused. -/
def usage (r : CommandLine.Refusal) : Bytes :=
  "porthole: " ++ ofString r.name ++ "\nCommands: " ++
    joinWith ", " (CommandLine.hostGrammar.subcommands.map (·.1)) ++ "\n"

/-- The script that completes the names of the subcommands. -/
def completion (_ : Bytes) : Bytes :=
  "complete -W '" ++ joinWith " " (CommandLine.hostGrammar.subcommands.map (·.1)) ++
    "' porthole\n"

/-- A world with files and variables, and nobody to talk to. -/
def quietWorld (files : Filesystem) (accounts : List Account) (environ : List (Bytes × Bytes)) :
    World where
  files := files
  services := []
  containerBuses := []
  locked := []
  supervisor := []
  programs := []
  accounts := accounts
  groupsOf _ := []
  privileges := ⟨none, none, none, none⟩
  environ := environ
  onTerminal := Entry.Streams.none
  size := ⟨0, 0, 0, 0⟩
  registry := ⟨true, [], false⟩
  living := []
  unitId := ⟨List.replicate 16 0, rfl⟩
  unitEnd := (none, none)
  intervention := ⟨none, none, none⟩
  texts := {
    detail := "not available"
    usage := usage
    completion := completion
    undecodable := fun (name, _) => "porthole: " ++ name ++ " is no text\n" }

/-- Reads what a command line can ask for. -/
def readWorld (words : List Bytes) : IO World := do
  let environ ← readEnviron
  let config := ((CommandLine.Invocation.parse words).toOption.map (·.config)).getD
    Settings.standardPath
  let database ← readInto Filesystem.empty "/etc/passwd"
  let accounts := ((database.readFile "/etc/passwd").toOption.map Account.database).getD []
  let files ← readInto Filesystem.empty config
  let settings := (Settings.loadOrStandard files config).toOption.getD Settings.standard
  let files ← match Caller.current accounts environ with
    | .ok caller => readContainers files (Path.join settings.dataDir caller.name)
    | .error _ => pure files
  return quietWorld files accounts environ

/-- Runs the host's program with words behind its name, and gives its exit code. -/
def start (words : List Bytes) : IO UInt32 := do
  let report := (← readWorld words).run words
  (← IO.getStdout).write ⟨report.stdout.toArray⟩
  (← IO.getStderr).write ⟨report.stderr.toArray⟩
  return UInt32.ofNat ((report.ending.bind Ending.code?).getD 1)

end ContainerEntry.Shell

/-- Runs the host's program. -/
def main (args : List String) : IO UInt32 :=
  ContainerEntry.Shell.start (args.map ContainerEntry.Bytes.ofString)
