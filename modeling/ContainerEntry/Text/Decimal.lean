import ContainerEntry.Bytes

/-!
# Numbers as text

Naturals and integers are written in decimal without leading zeros; single bytes and identifiers
are written in small hexadecimal digits.  Reading is stricter than a library's: `readNat?` takes
one or more ASCII digits and nothing else, so that each caller states which sign it allows.
-/

namespace ContainerEntry.Text

open Bytes

/-- The ASCII digit of a number below ten. -/
def digit (n : Nat) : UInt8 := UInt8.ofNat (0x30 + n)

/-- The decimal digits of a number, at most one more than `fuel` of them. -/
def digitsWithin : (fuel : Nat) → Nat → Bytes
  | 0, n => [digit (n % 10)]
  | fuel + 1, n =>
    if n < 10 then [digit n] else digitsWithin fuel (n / 10) ++ [digit (n % 10)]

/-- The decimal text of a natural number, without leading zeros; no number has more digits than its
value and one. -/
def decimal (n : Nat) : Bytes := digitsWithin n n

/-- The decimal text of an integer, with a hyphen before a negative one. -/
def decimalInt : Int → Bytes
  | .ofNat n => decimal n
  | .negSucc n => hyphen :: decimal (n + 1)

/-- The value of a digit string read on from `acc`. -/
def digitsValue (acc : Nat) : Bytes → Nat
  | [] => acc
  | d :: rest => digitsValue (10 * acc + (d.toNat - 0x30)) rest

/-- One or more ASCII digits as a number; leading zeros are allowed. -/
def readNat? (s : Bytes) : Option Nat :=
  if !s.isEmpty && s.all isDigit then some (digitsValue 0 s) else none

/-- A digit string behind an optional plus sign. -/
def readUnsigned? : Bytes → Option Nat
  | plus :: rest => readNat? rest
  | s => readNat? s

/-- A digit string behind an optional sign of either kind. -/
def readInt? : Bytes → Option Int
  | plus :: rest => (readNat? rest).map Int.ofNat
  | hyphen :: rest => (readNat? rest).map fun n => -Int.ofNat n
  | s => (readNat? s).map Int.ofNat

/-- The small hexadecimal digit of a number below sixteen. -/
def hexDigit (n : Nat) : UInt8 :=
  if n < 10 then UInt8.ofNat (0x30 + n) else UInt8.ofNat (0x57 + n)

/-- A byte as two small hexadecimal digits. -/
def hexByte (b : UInt8) : Bytes := [hexDigit (b.toNat / 16), hexDigit (b.toNat % 16)]

/-- A byte string as small hexadecimal digits. -/
def hex (s : Bytes) : Bytes := s.flatMap hexByte

/-- The value of a hexadecimal digit of either case. -/
def hexValue (b : UInt8) : Nat :=
  if isDigit b then b.toNat - 0x30
  else if isLower b then b.toNat - 0x57
  else b.toNat - 0x37

/-- The value of a string of hexadecimal digits. -/
def readHex (s : Bytes) : Nat := s.foldl (fun acc b => 16 * acc + hexValue b) 0

end ContainerEntry.Text
