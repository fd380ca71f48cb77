import ContainerEntry.CommandLine.Grammar
import ContainerEntry.Settings

/-!
# The command lines of the two programs

The host's program enters, stops, lists and describes containers; the helper inside a container has
the one subcommand that finishes an entry.  The helper's last argument swallows whatever follows its
first word, so a command's own options reach the command.
-/

namespace ContainerEntry.CommandLine

open Bytes

/-! ### The host's program -/

/-- What the host's program is asked to do. -/
inductive Command where
  /-- Run a command, or a login shell, inside a container. -/
  | enter (container : Bytes) (workdir : Option Bytes) (noReplay : Bool) (words : List Bytes)
  /-- Stop a container. -/
  | kill (container : Bytes) (signal : StopSignal) (everyProcess : Bool)
  /-- List containers. -/
  | list (patterns : List Bytes)
  /-- Describe a container. -/
  | info (container : Bytes)
  /-- Write a completion script. -/
  | completion (shell : Bytes)
  deriving DecidableEq, Repr

/-- A command line of the host's program. -/
structure Invocation where
  /-- The settings file. -/
  config : Bytes
  /-- Whether more is told. -/
  verbose : Bool
  /-- What to do. -/
  command : Command
  deriving DecidableEq, Repr

/-- The shells that have completion scripts. -/
def shells : List Bytes := ["bash", "elvish", "fish", "powershell", "zsh"]

/-- The options that every subcommand of the host's program has. -/
def commonOptions : List Switch := [verboseOption, helpOption, versionOption]

/-- The argument that names a container. -/
def containerArgument : Positional := ⟨"container", .text, .one, true⟩

/-- The grammar of the host's program. -/
def hostGrammar : Grammar where
  options := valueOption "config" (some 0x63) .path :: commonOptions
  subcommands := [
    ("enter",
      { options :=
          valueOption "workdir" (some 0x77) .path :: flagOption "no-replay" none :: commonOptions
        positionals := [containerArgument, ⟨"command", .text, .afterDashes, false⟩]
        subcommands := [] }),
    ("kill",
      { options :=
          valueOption "signal" (some 0x73) (.choice (StopSignal.all.flatMap StopSignal.spellings))
            :: flagOption "all" (some 0x61) :: commonOptions
        positionals := [containerArgument]
        subcommands := [] }),
    ("list",
      { options := commonOptions
        positionals := [⟨"patterns", .text, .many, false⟩]
        subcommands := [] }),
    ("info",
      { options := commonOptions, positionals := [containerArgument], subcommands := [] }),
    ("completion",
      { options := commonOptions
        positionals := [⟨"shell", .choice shells, .one, true⟩]
        subcommands := [] })]

/-- The command of a subcommand and what it was given. -/
def Command.ofGiven (name : Bytes) (g : Given) : Command :=
  let container := (g.value? "container").getD []
  if name = ofString "enter" then
    .enter container (g.value? "workdir") (g.has "no-replay") (g.values "command")
  else if name = ofString "kill" then
    let signal := ((g.value? "signal").bind (StopSignal.ofSpelling? · false)).getD .default
    .kill container signal (g.has "all")
  else if name = ofString "list" then .list (g.values "patterns")
  else if name = ofString "info" then .info container
  else .completion ((g.value? "shell").getD [])

/-- Reads the words behind the name of the host's program. -/
def Invocation.parse (words : List Bytes) : Except Refusal Invocation :=
  (hostGrammar.parse words).map fun r =>
    { config := (r.outer.value? "config").getD Settings.standardPath
      verbose := r.outer.has "verbose" || r.inner.has "verbose"
      command := Command.ofGiven r.name r.inner }

/-! ### The helper inside a container -/

/-- A command line of the helper, whose last words have not been split. -/
structure HelperInvocation where
  /-- Whether more is told. -/
  verbose : Bool
  /-- The terminal for the standard input. -/
  stdin : Option Bytes
  /-- The terminal for the standard output. -/
  stdout : Option Bytes
  /-- The terminal for the standard error. -/
  stderr : Option Bytes
  /-- The user to become. -/
  uid : UInt32
  /-- The directory to start in. -/
  cwd : Bytes
  /-- Whether the startup output is not replayed. -/
  noReplay : Bool
  /-- The assignments and the command. -/
  words : List Bytes
  deriving DecidableEq, Repr

/-- The grammar of the helper. -/
def helperGrammar : Grammar where
  options := [verboseOption, helpOption, versionOption]
  subcommands := [
    ("enter",
      { options := [
          valueOption "stdin" none .path,
          valueOption "stdout" none .path,
          valueOption "stderr" none .path,
          { valueOption "uid" none .uid with isRequired := true },
          { valueOption "cwd" none .path with isRequired := true },
          flagOption "no-replay" none,
          verboseOption,
          helpOption]
        positionals := [⟨"args", .text, .everything, true⟩]
        subcommands := [] })]

/-- Reads the words behind the helper's name. -/
def HelperInvocation.parse (words : List Bytes) : Except Refusal HelperInvocation :=
  (helperGrammar.parse words).map fun r =>
    { verbose := r.outer.has "verbose" || r.inner.has "verbose"
      stdin := r.inner.value? "stdin"
      stdout := r.inner.value? "stdout"
      stderr := r.inner.value? "stderr"
      uid := ((r.inner.value? "uid").bind readUid?).getD 0
      cwd := (r.inner.value? "cwd").getD []
      noReplay := r.inner.has "no-replay"
      words := r.inner.values "args" }

end ContainerEntry.CommandLine
