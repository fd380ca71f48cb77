import ContainerEntry.Failure

/-!
# What the entry helper is asked

The helper's last words are assignments and a command, behind a leading `env` that carries nothing.
A word is an assignment while the text before its first equals sign is a name; the first word that
is none starts the command, and no word behind it is looked at again.
-/

namespace ContainerEntry.Entry

open Bytes

/-- What the entry helper is asked to do. -/
structure Request where
  /-- The terminal for the standard input. -/
  stdin : Option Bytes
  /-- The terminal for the standard output. -/
  stdout : Option Bytes
  /-- The terminal for the standard error. -/
  stderr : Option Bytes
  /-- The user to become. -/
  uid : UInt32
  /-- The directory to start in. -/
  cwd : Bytes
  /-- Whether the container's startup output is not replayed. -/
  noReplay : Bool
  /-- The variables to set, in order. -/
  environ : List (Bytes × Bytes)
  /-- The program to run and its words. -/
  command : List Bytes
  deriving DecidableEq, Repr

/-- The word that marks where assignments begin. -/
def marker : Bytes := "env"

/-- Whether a text can be a variable's name in an assignment. -/
def isName (text : Bytes) : Bool := !text.isEmpty && !text.contains slash

/-- The name and value of a word that is an assignment. -/
def asAssignment? (word : Bytes) : Option (Bytes × Bytes) :=
  (cut equals word).bind fun v => if isName v.1 then some v else none

/-- The assignments that words begin with, and the words behind them. -/
def splitAssignments : List Bytes → List (Bytes × Bytes) × List Bytes
  | [] => ([], [])
  | word :: rest =>
    match asAssignment? word with
    | none => ([], word :: rest)
    | some v =>
      let (vars, command) := splitAssignments rest
      (v :: vars, command)

/-- Words without a leading marker. -/
def dropMarker : List Bytes → List Bytes
  | [] => []
  | word :: rest => if word = marker then rest else word :: rest

/-- The failure of a request without a command. -/
def missingCommand : Failure := .exec "porthole-host" .expectedCommand

/-- The assignments and the command of the helper's last words. -/
def splitEnviron (words : List Bytes) : Except Failure (List (Bytes × Bytes) × List Bytes) :=
  match splitAssignments (dropMarker words) with
  | (_, []) => .error missingCommand
  | split => .ok split

end ContainerEntry.Entry
