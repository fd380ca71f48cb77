import ContainerEntry.Failure

/-!
# Terminals

A terminal has attributes and a window size.  The attributes are words of mode bits, the characters
with a meaning of their own, a line discipline and two speeds; they are read and set as a whole.
Raw mode clears every mode bit that would interpret what is typed or printed.
-/

namespace ContainerEntry

/-- A flag of a terminal's attributes. -/
inductive TerminalFlag where
  /-- A break interrupts. -/
  | brkint
  /-- Input is echoed. -/
  | echo
  /-- Input comes line by line. -/
  | icanon
  /-- A carriage return is read as a line feed. -/
  | icrnl
  /-- Extended input processing. -/
  | iexten
  /-- Control characters send signals. -/
  | isig
  /-- Output can be stopped and started. -/
  | ixon
  /-- Output is processed. -/
  | opost
  deriving DecidableEq, Repr

namespace TerminalFlag

/-- The flags in the order of their names. -/
def all : List TerminalFlag :=
  [.brkint, .echo, .icanon, .icrnl, .iexten, .isig, .ixon, .opost]

/-- The name of a flag. -/
def name : TerminalFlag → String
  | .brkint => "BRKINT"
  | .echo => "ECHO"
  | .icanon => "ICANON"
  | .icrnl => "ICRNL"
  | .iexten => "IEXTEN"
  | .isig => "ISIG"
  | .ixon => "IXON"
  | .opost => "OPOST"

/-- The bit of a flag in its word of modes. -/
def bit : TerminalFlag → UInt32
  | .brkint => 0x2
  | .echo => 0x8
  | .icanon => 0x2
  | .icrnl => 0x100
  | .iexten => 0x8000
  | .isig => 0x1
  | .ixon => 0x400
  | .opost => 0x1

end TerminalFlag

/-- The size of a window. -/
structure WindowSize where
  /-- Rows of characters. -/
  rows : Nat
  /-- Columns of characters. -/
  columns : Nat
  /-- Width in pixels. -/
  width : Nat
  /-- Height in pixels. -/
  height : Nat
  deriving DecidableEq, Repr

/-- The attributes of a terminal. -/
structure Attributes where
  /-- How input is treated. -/
  inputModes : UInt32
  /-- How output is treated. -/
  outputModes : UInt32
  /-- How bytes are framed on the line. -/
  controlModes : UInt32
  /-- How the terminal talks to whoever types. -/
  localModes : UInt32
  /-- The line discipline. -/
  line : UInt8
  /-- The characters with a meaning of their own, and the two bounds of a raw read. -/
  characters : Vector UInt8 32
  /-- The speed of what comes in. -/
  inputSpeed : UInt32
  /-- The speed of what goes out. -/
  outputSpeed : UInt32
  deriving DecidableEq, Repr

namespace Attributes

/-- The attributes of a fresh terminal, as the system hands it out. -/
def fresh : Attributes where
  inputModes := 0x500
  outputModes := 0x5
  controlModes := 0xbf
  localModes := 0x8a3b
  line := 0
  characters := #v[0x03, 0x1c, 0x7f, 0x15, 0x04, 0, 1, 0, 0x11, 0x13, 0x1a, 0, 0x12, 0x0f, 0x17,
    0x16, 0, 0, 0, 0, 0, 0, 0, 0, 0, 0, 0, 0, 0, 0, 0, 0]
  inputSpeed := 0xf
  outputSpeed := 0xf

/-- The input modes that interpret what comes in: breaks and parity errors, the eighth bit, line
feeds and carriage returns, and the characters that stop and start output. -/
def interpretsInput : UInt32 :=
  0x1 ||| 0x2 ||| 0x8 ||| 0x20 ||| 0x40 ||| 0x80 ||| 0x100 ||| 0x400

/-- The output mode that interprets what goes out. -/
def interpretsOutput : UInt32 := 0x1

/-- The local modes that interpret what is typed: signals, lines, the two echoes and extended
processing. -/
def interpretsTyping : UInt32 := 0x1 ||| 0x2 ||| 0x8 ||| 0x40 ||| 0x8000

/-- The control modes that say how many bits a byte has, and whether a parity bit follows. -/
def framing : UInt32 := 0x30 ||| 0x100

/-- Bytes of eight bits. -/
def eightBits : UInt32 := 0x30

/-- The attributes of raw mode: nothing is interpreted, a byte has eight bits and no parity, and a
read waits for one byte and no longer. -/
def raw (a : Attributes) : Attributes :=
  { a with
    inputModes := a.inputModes &&& ~~~interpretsInput
    outputModes := a.outputModes &&& ~~~interpretsOutput
    controlModes := (a.controlModes &&& ~~~framing) ||| eightBits
    localModes := a.localModes &&& ~~~interpretsTyping
    characters := (a.characters.set 6 1).set 5 0 }

/-- The word of modes a flag is in. -/
def wordOf (a : Attributes) : TerminalFlag → UInt32
  | .brkint | .icrnl | .ixon => a.inputModes
  | .opost => a.outputModes
  | .echo | .icanon | .iexten | .isig => a.localModes

/-- Whether a flag is set. -/
def has (a : Attributes) (f : TerminalFlag) : Bool := a.wordOf f &&& f.bit != 0

/-- The attributes without a flag. -/
def without (a : Attributes) (f : TerminalFlag) : Attributes :=
  match f with
  | .brkint | .icrnl | .ixon => { a with inputModes := a.inputModes &&& ~~~f.bit }
  | .opost => { a with outputModes := a.outputModes &&& ~~~f.bit }
  | .echo | .icanon | .iexten | .isig => { a with localModes := a.localModes &&& ~~~f.bit }

/-- The attributes without some flags. -/
def clear (a : Attributes) (flags : List TerminalFlag) : Attributes := flags.foldl without a

/-- The flags that are set, in the order of their names. -/
def flags (a : Attributes) : List TerminalFlag := TerminalFlag.all.filter a.has

/-- How many bytes a read waits for when input does not come line by line. -/
def minBytes (a : Attributes) : Nat := a.characters[6].toNat

end Attributes

/-- A terminal. -/
structure Terminal where
  /-- How it treats input and output. -/
  attributes : Attributes
  /-- The size of its window. -/
  size : WindowSize
  deriving DecidableEq, Repr

namespace Terminal

/-- A terminal that nobody has used. -/
def fresh : Terminal := ⟨Attributes.fresh, ⟨0, 0, 0, 0⟩⟩

/-- The terminal with other attributes. -/
def withAttributes (a : Attributes) (t : Terminal) : Terminal := { t with attributes := a }

/-- The terminal with another window size. -/
def withSize (s : WindowSize) (t : Terminal) : Terminal := { t with size := s }

end Terminal

end ContainerEntry
