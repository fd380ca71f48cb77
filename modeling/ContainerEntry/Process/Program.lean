import ContainerEntry.Failure
import ContainerEntry.Filesystem.Tree

/-!
# Running programs

A program is started by words, the first of which names it.  A name with a slash is a path; any
other name is looked up in the directories of a search path, and a directory that has the name but
may not be run counts only when no later one can be.  What is found has to be a regular file that
may be run and that is a program.
-/

namespace ContainerEntry

open Bytes

/-- How a process ends. -/
inductive Ending where
  /-- It exits; a parent sees the code's lowest eight bits. -/
  | exits (code : Int)
  /-- A signal kills it. -/
  | dies (signal : Signal)
  deriving DecidableEq, Repr

namespace Ending

/-- The change of state that the parent of an ended process sees. -/
def status : Ending → WaitStatus
  | .exits code => .exited (code % 256).toNat
  | .dies signal => .signaled signal false

/-- The code that the parent of an ended process sees, unless a signal killed it. -/
def code? : Ending → Option Nat
  | .exits code => some (code % 256).toNat
  | .dies _ => none

end Ending

namespace Program

/-- The variable that holds the search path. -/
def pathVariable : Bytes := "PATH"

/-- The directories that are searched when no variable names them. -/
def standardPath : Bytes := "/bin:/usr/bin"

/-- Whether the permissions of a file allow someone to run it. -/
def mayRun (mode : Nat) : Bool := mode / 64 % 2 = 1 || mode / 8 % 2 = 1 || mode % 2 = 1

/-- The file at a path, if it may be run. -/
def runnable (files : Filesystem) (path : Bytes) : Except Errno Inode :=
  match files.existing path true with
  | .error e => .error e
  | .ok i =>
    match files.node? i with
    | some (.file _ mode) => if mayRun mode then .ok i else .error .access
    | _ => .error .access

/-- Whether the search goes on behind a directory that failed so. -/
def searchesOn (e : Errno) : Bool := e = .noEntry || e = .notDirectory || e = .access

/-- Looks a name up in directories; `failure` is what is left when none has it. -/
def search (files : Filesystem) (name : Bytes) (failure : Errno) :
    (directories : List Bytes) → Except Errno Inode
  | [] => .error failure
  | directory :: rest =>
    match runnable files (Path.join directory name) with
    | .ok i => .ok i
    | .error e =>
      if searchesOn e then search files name (if failure = .access then failure else e) rest
      else .error e

/-- The file that a program's name leads to. -/
def locate (files : Filesystem) (searchPath name : Bytes) : Except Errno Inode :=
  if name.isEmpty then .error .noEntry
  else if name.contains slash then runnable files name
  else search files name .noEntry (fields colon searchPath)

/-- The file that is run by words in an environment. -/
def start (files : Filesystem) (environ : List (Bytes × Bytes)) (words : List Bytes) :
    Except Fault Inode :=
  if words.any (·.contains nul) then .error .nulInArgument
  else
    let searchPath := (environ.lookup pathVariable).getD standardPath
    (locate files searchPath (words.headD [])).mapError .os

end Program

end ContainerEntry
