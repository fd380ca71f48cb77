/-!
# Byte text

Names, paths, arguments, variables and file contents are byte strings: the operating system gives
them no encoding, and every rule of an entry (where an assignment splits, which order names have,
what a path component is) is a rule on bytes.  Text that people read is the UTF-8 encoding of a
string, and a string literal stands for its encoding wherever a byte string is expected.

The module holds the byte classes, the two ways a word is cut (`cut` at the first separator,
`fields` at every one) and the byte order, which is the lexicographic order of `List`.
-/

namespace ContainerEntry

/-- A byte string. -/
abbrev Bytes := List UInt8

namespace Bytes

/-- The UTF-8 encoding of a string. -/
def ofString (s : String) : Bytes := s.toUTF8.data.toList

instance : Coe String Bytes := ⟨ofString⟩

/-! ### Bytes with a role -/

/-- NUL, which no path, argument or variable can hold. -/
@[match_pattern] abbrev nul : UInt8 := 0x00
/-- Horizontal tab. -/
@[match_pattern] abbrev tab : UInt8 := 0x09
/-- Line feed. -/
@[match_pattern] abbrev lineFeed : UInt8 := 0x0a
/-- Carriage return. -/
@[match_pattern] abbrev carriageReturn : UInt8 := 0x0d
/-- Space. -/
@[match_pattern] abbrev space : UInt8 := 0x20
/-- The double quote. -/
@[match_pattern] abbrev quote : UInt8 := 0x22
/-- The number sign, which starts a comment. -/
@[match_pattern] abbrev hash : UInt8 := 0x23
/-- The apostrophe. -/
@[match_pattern] abbrev apostrophe : UInt8 := 0x27
/-- The asterisk. -/
@[match_pattern] abbrev asterisk : UInt8 := 0x2a
/-- The plus sign. -/
@[match_pattern] abbrev plus : UInt8 := 0x2b
/-- The comma. -/
@[match_pattern] abbrev comma : UInt8 := 0x2c
/-- The hyphen. -/
@[match_pattern] abbrev hyphen : UInt8 := 0x2d
/-- The full stop. -/
@[match_pattern] abbrev dot : UInt8 := 0x2e
/-- The slash, which separates path components. -/
@[match_pattern] abbrev slash : UInt8 := 0x2f
/-- The digit zero. -/
@[match_pattern] abbrev zero : UInt8 := 0x30
/-- The colon. -/
@[match_pattern] abbrev colon : UInt8 := 0x3a
/-- The equals sign, which separates a name from its value. -/
@[match_pattern] abbrev equals : UInt8 := 0x3d
/-- The question mark. -/
@[match_pattern] abbrev question : UInt8 := 0x3f
/-- The opening bracket. -/
@[match_pattern] abbrev openBracket : UInt8 := 0x5b
/-- The backslash. -/
@[match_pattern] abbrev backslash : UInt8 := 0x5c
/-- The closing bracket. -/
@[match_pattern] abbrev closeBracket : UInt8 := 0x5d
/-- The underscore. -/
@[match_pattern] abbrev underscore : UInt8 := 0x5f
/-- The opening brace. -/
@[match_pattern] abbrev openBrace : UInt8 := 0x7b
/-- The closing brace. -/
@[match_pattern] abbrev closeBrace : UInt8 := 0x7d

/-! ### Classes of bytes -/

/-- A decimal digit. -/
def isDigit (b : UInt8) : Bool := 0x30 ≤ b && b ≤ 0x39

/-- An ASCII capital. -/
def isUpper (b : UInt8) : Bool := 0x41 ≤ b && b ≤ 0x5a

/-- A small ASCII letter. -/
def isLower (b : UInt8) : Bool := 0x61 ≤ b && b ≤ 0x7a

/-- An ASCII letter. -/
def isAlpha (b : UInt8) : Bool := isUpper b || isLower b

/-- An ASCII letter or digit. -/
def isAlnum (b : UInt8) : Bool := isAlpha b || isDigit b

/-- A hexadecimal digit of either case. -/
def isHex (b : UInt8) : Bool :=
  isDigit b || (0x41 ≤ b && b ≤ 0x46) || (0x61 ≤ b && b ≤ 0x66)

/-- The small letter of an ASCII capital; any other byte is itself. -/
def toLower (b : UInt8) : UInt8 := if isUpper b then b + 0x20 else b

/-- Equality up to the case of ASCII letters. -/
def eqIgnoringCase (a b : Bytes) : Bool := a.map toLower == b.map toLower

/-! ### Cutting and joining -/

/-- The text before and after the first `sep`, or `none` without one. -/
def cut (sep : UInt8) : Bytes → Option (Bytes × Bytes)
  | [] => none
  | b :: rest =>
    if b = sep then some ([], rest)
    else (cut sep rest).map fun (before, after) => (b :: before, after)

/-- The pieces between the separators: one more than there are separators. -/
def fields (sep : UInt8) : Bytes → List Bytes
  | [] => [[]]
  | b :: rest =>
    match fields sep rest with
    | [] => [[b]]
    | f :: fs => if b = sep then [] :: f :: fs else (b :: f) :: fs

/-- The text behind a word that it starts with. -/
def skipWord (word text : Bytes) : Option Bytes :=
  if word.isPrefixOf text then some (text.drop word.length) else none

/-- The pieces with `sep` between neighbours. -/
def joinWith (sep : Bytes) : List Bytes → Bytes
  | [] => []
  | [a] => a
  | a :: b :: rest => a ++ sep ++ joinWith sep (b :: rest)

/-- The text without the NULs it ends in. -/
def trimEndNul : Bytes → Bytes
  | [] => []
  | b :: rest =>
    match trimEndNul rest with
    | [] => if b = nul then [] else [b]
    | trimmed => b :: trimmed

/-- The text padded with spaces on the left to at least `width` bytes. -/
def padLeft (width : Nat) (s : Bytes) : Bytes :=
  List.replicate (width - s.length) space ++ s

/-- `old` replaced by `new` throughout, from the left; an empty `old` replaces nothing. -/
def replaceAll (old new : Bytes) : Nat → Bytes → Bytes
  | 0, s => s
  | _ + 1, [] => []
  | fuel + 1, b :: rest =>
    if !old.isEmpty && old.isPrefixOf (b :: rest) then
      new ++ replaceAll old new fuel ((b :: rest).drop old.length)
    else b :: replaceAll old new fuel rest

end Bytes

end ContainerEntry
