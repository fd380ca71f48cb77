import ContainerEntry.Bytes

/-!
# Standard streams

Which of a process's three standard streams are terminals.  A container's terminal stands in for all
of them; what it prints goes to one place, the standard output if that is a terminal and else the
standard error, and it follows the window size of the first of them.
-/

namespace ContainerEntry.Entry

/-- A standard stream. -/
inductive Stream where
  /-- The standard input. -/
  | stdin
  /-- The standard output. -/
  | stdout
  /-- The standard error. -/
  | stderr
  deriving DecidableEq, Repr

namespace Stream

/-- The streams in the order of their descriptors. -/
def all : List Stream := [.stdin, .stdout, .stderr]

/-- The descriptor of a stream. -/
def descriptor : Stream → Nat
  | .stdin => 0
  | .stdout => 1
  | .stderr => 2

/-- The name of a stream. -/
def name : Stream → Bytes
  | .stdin => "stdin"
  | .stdout => "stdout"
  | .stderr => "stderr"

end Stream

/-- A set of standard streams. -/
structure Streams where
  /-- Whether the standard input is in the set. -/
  stdin : Bool
  /-- Whether the standard output is in the set. -/
  stdout : Bool
  /-- Whether the standard error is in the set. -/
  stderr : Bool
  deriving DecidableEq, Repr

namespace Streams

/-- The set without streams. -/
def none : Streams := ⟨false, false, false⟩

/-- Whether a stream is in a set. -/
def has (s : Streams) : Stream → Bool
  | .stdin => s.stdin
  | .stdout => s.stdout
  | .stderr => s.stderr

/-- Whether no stream is in a set. -/
def isEmpty (s : Streams) : Bool := !(s.stdin || s.stdout || s.stderr)

/-- The set as a number, one bit for each stream. -/
def bits (s : Streams) : Nat := s.stdin.toNat + 2 * s.stdout.toNat + 4 * s.stderr.toNat

/-- The streams of a set, in order. -/
def toList (s : Streams) : List Stream := Stream.all.filter s.has

/-- Where the output of a container's terminal goes. -/
def outputTarget (s : Streams) : Option Stream :=
  if s.stdout then some .stdout else if s.stderr then some .stderr else Option.none

/-- The stream whose window size a container's terminal follows. -/
def sizeSource (s : Streams) : Option Stream := Stream.all.find? s.has

end Streams

end ContainerEntry.Entry
