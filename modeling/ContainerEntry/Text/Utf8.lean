import ContainerEntry.Bytes

/-!
# UTF-8

A byte string is cut into chunks: each scalar value's encoding is one chunk, and where the text is
broken, the longest prefix that could still have begun an encoding is one chunk (a byte that begins
none is a chunk by itself).  Everything else is read off the chunks: the text is `valid` when none
is broken, and its `display` form has one replacement character for each broken chunk.

The second byte of an encoding has a range of its own for the leads E0, ED, F0 and F4; that is what
excludes overlong forms, surrogates and values past 10FFFF, so no value is ever computed.
-/

namespace ContainerEntry.Text

/-- What a byte says about the encoding that it begins. -/
inductive Lead where
  /-- The byte is a whole encoding. -/
  | single
  /-- The second byte lies between the bounds, and so many more bytes follow it. -/
  | multi (lo hi : UInt8) (more : Nat)
  /-- The byte begins no encoding. -/
  | none
  deriving DecidableEq, Repr

/-- The role of a byte at the start of an encoding. -/
def Lead.of (b : UInt8) : Lead :=
  if b < 0x80 then .single
  else if b < 0xc2 then .none
  else if b < 0xe0 then .multi 0x80 0xbf 0
  else if b = 0xe0 then .multi 0xa0 0xbf 1
  else if b = 0xed then .multi 0x80 0x9f 1
  else if b < 0xf0 then .multi 0x80 0xbf 1
  else if b = 0xf0 then .multi 0x90 0xbf 2
  else if b < 0xf4 then .multi 0x80 0xbf 2
  else if b = 0xf4 then .multi 0x80 0x8f 2
  else .none

/-- A byte that continues an encoding. -/
def isContinuation (b : UInt8) : Bool := 0x80 ≤ b && b ≤ 0xbf

/-- A piece of a byte string read as UTF-8. -/
inductive Chunk where
  /-- The encoding of one scalar value. -/
  | scalar (bytes : Bytes)
  /-- A longest prefix of an encoding that is not continued, or a byte that begins none. -/
  | broken (bytes : Bytes)
  deriving DecidableEq, Repr

/-- The bytes of a chunk. -/
def Chunk.bytes : Chunk → Bytes
  | .scalar b => b
  | .broken b => b

/-- Whether a chunk is the encoding of a scalar value. -/
def Chunk.isScalar : Chunk → Bool
  | .scalar _ => true
  | .broken _ => false

/-- The chunks of a byte string, in order. -/
def chunks : Bytes → List Chunk
  | [] => []
  | a :: s =>
    match Lead.of a with
    | .single => .scalar [a] :: chunks s
    | .none => .broken [a] :: chunks s
    | .multi lo hi more =>
      match s with
      | [] => [.broken [a]]
      | b :: s₁ =>
        if b < lo || hi < b then .broken [a] :: chunks (b :: s₁)
        else match more with
          | 0 => .scalar [a, b] :: chunks s₁
          | 1 => match s₁ with
            | [] => [.broken [a, b]]
            | c :: s₂ =>
              if isContinuation c then .scalar [a, b, c] :: chunks s₂
              else .broken [a, b] :: chunks (c :: s₂)
          | _ => match s₁ with
            | [] => [.broken [a, b]]
            | c :: s₂ =>
              if isContinuation c then
                match s₂ with
                | [] => [.broken [a, b, c]]
                | d :: s₃ =>
                  if isContinuation d then .scalar [a, b, c, d] :: chunks s₃
                  else .broken [a, b, c] :: chunks (d :: s₃)
              else .broken [a, b] :: chunks (c :: s₂)

/-- A byte string is UTF-8 when none of its chunks is broken. -/
def isUtf8 (s : Bytes) : Bool := (chunks s).all Chunk.isScalar

/-- U+FFFD, which stands for a broken chunk. -/
def replacement : Bytes := [0xef, 0xbf, 0xbd]

/-- The text of a byte string, with one replacement character for each broken chunk. -/
def display (s : Bytes) : Bytes :=
  (chunks s).flatMap fun
    | .scalar b => b
    | .broken _ => replacement

/-- The UTF-8 encoding of a scalar value; a surrogate or a number past 10FFFF has none. -/
def encodeScalar? (n : Nat) : Option Bytes :=
  if n < 0x80 then some [UInt8.ofNat n]
  else if n < 0x800 then some [UInt8.ofNat (0xc0 + n / 64), UInt8.ofNat (0x80 + n % 64)]
  else if 0xd800 ≤ n && n < 0xe000 then none
  else if n < 0x10000 then
    some [UInt8.ofNat (0xe0 + n / 4096), UInt8.ofNat (0x80 + n / 64 % 64),
      UInt8.ofNat (0x80 + n % 64)]
  else if n < 0x110000 then
    some [UInt8.ofNat (0xf0 + n / 262144), UInt8.ofNat (0x80 + n / 4096 % 64),
      UInt8.ofNat (0x80 + n / 64 % 64), UInt8.ofNat (0x80 + n % 64)]
  else none

end ContainerEntry.Text
