import ContainerEntry.Entry.Streams
import ContainerEntry.Environ
import ContainerEntry.Text.Decimal
import ContainerEntry.Text.Utf8

/-!
# What to enter with

A `Spec` describes one entry into a container: who, where, with which variables, on which terminal,
and what to run.  It is built by changes to a plain one, of which the last of a kind counts, and it
is handed to the entry helper inside the container as words:

    HELPER enter [-v] [--stdin=P] [--stdout=P] [--stderr=P] --uid=N --cwd=D [--no-replay]
      env NAME=VALUE... COMMAND...

An empty command stands for a login shell.
-/

namespace ContainerEntry.Entry

open Bytes Text

/-- One entry into a container. -/
structure Spec where
  /-- The container's terminal, which is there if and only if some stream is on it. -/
  pty : Option Bytes
  /-- The streams on the terminal. -/
  streams : Streams
  /-- The variables that go along. -/
  environ : Environ
  /-- The user to become. -/
  uid : UInt32
  /-- The directory to start in. -/
  cwd : Bytes
  /-- Whether the container's startup output is not replayed. -/
  noReplay : Bool
  /-- Whether the helper tells what it does. -/
  verbose : Bool
  /-- The words to run; none stand for a login shell. -/
  command : List Bytes
  deriving DecidableEq

namespace Spec

/-- The plain entry of a user into a directory. -/
def plain (uid : UInt32) (cwd : Bytes) : Spec where
  pty := none
  streams := Streams.none
  environ := Environ.empty
  uid := uid
  cwd := cwd
  noReplay := false
  verbose := false
  command := []

/-- A change to an entry. -/
inductive Change where
  /-- Put streams on a terminal; without streams there is no terminal. -/
  | pty (path : Bytes) (streams : Streams)
  /-- Set a variable. -/
  | assign (name value : Bytes)
  /-- Set variables one after another. -/
  | assignAll (vars : List (Bytes × Bytes))
  /-- Say whether the startup output is not replayed. -/
  | noReplay (flag : Bool)
  /-- Say whether the helper tells what it does. -/
  | verbose (flag : Bool)
  /-- Say what to run. -/
  | command (words : List Bytes)
  deriving DecidableEq, Repr

/-- An entry after a change. -/
def change (s : Spec) : Change → Spec
  | .pty path streams =>
    { s with pty := if streams.isEmpty then none else some path, streams := streams }
  | .assign name value => { s with environ := s.environ.insert name value }
  | .assignAll vars => { s with environ := s.environ.insertAll vars }
  | .noReplay flag => { s with noReplay := flag }
  | .verbose flag => { s with verbose := flag }
  | .command words => { s with command := words }

/-- An entry after changes, one after another. -/
def changes (s : Spec) (all : List Change) : Spec := all.foldl change s

/-- The words that are run. -/
def effectiveCommand (s : Spec) (loginShell : Bytes) : List Bytes :=
  if s.command.isEmpty then [display loginShell, "-l"] else s.command

/-- An assignment as a word. -/
def assignment (v : Bytes × Bytes) : Bytes := v.1 ++ equals :: v.2

/-- The options that put streams on the terminal. -/
def ptyOptions (s : Spec) : List Bytes :=
  match s.pty with
  | none => []
  | some path => s.streams.toList.map fun stream => "--" ++ stream.name ++ equals :: path

/-- The words for the entry helper. -/
def helperArgv (s : Spec) (helper loginShell : Bytes) : List Bytes :=
  [display helper, ofString "enter"] ++
  (if s.verbose then [ofString "-v"] else []) ++
  s.ptyOptions ++
  ["--uid=" ++ decimal s.uid.toNat, "--cwd=" ++ display s.cwd] ++
  (if s.noReplay then [ofString "--no-replay"] else []) ++
  ofString "env" :: s.environ.toList.map assignment ++
  s.effectiveCommand loginShell

end Spec

end ContainerEntry.Entry
