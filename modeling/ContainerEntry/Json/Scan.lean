import ContainerEntry.Text.Decimal
import ContainerEntry.Text.Utf8

/-!
# Scanning JSON

Reading past a JSON value without keeping it.  What is passed over must follow the grammar, but no
more: its numbers may have any size, and its strings may hold halves of surrogate pairs, since no
one asks what they mean.  `readString` is for the strings that somebody asks about, and there a
half pair is an error.

Open arrays and objects are a stack of their own, so a value may be nested to any depth.
-/

namespace ContainerEntry.Json

open Bytes Text

/-- A blank between tokens. -/
def isBlank (b : UInt8) : Bool :=
  b = space || b = tab || b = lineFeed || b = carriageReturn

/-- The text without the blanks it starts with. -/
def skipBlanks (text : Bytes) : Bytes := text.dropWhile isBlank

/-- Whether an escape's letter stands for one character. -/
def isPlainEscape (b : UInt8) : Bool :=
  b = quote || b = backslash || b = slash || b = 0x62 || b = 0x66 || b = 0x6e || b = 0x72 ||
    b = 0x74

/-- The byte of an escape's letter. -/
def plainEscape (b : UInt8) : UInt8 :=
  if b = 0x62 then 0x08 else if b = 0x66 then 0x0c else if b = 0x6e then lineFeed
  else if b = 0x72 then carriageReturn else if b = 0x74 then tab else b

/-- The text behind a string whose opening quote has been read. -/
def skipString : Bytes → Option Bytes
  | [] => none
  | backslash :: 0x75 :: a :: b :: c :: d :: rest =>
    if isHex a && isHex b && isHex c && isHex d then skipString rest else none
  | backslash :: e :: rest => if isPlainEscape e then skipString rest else none
  | quote :: rest => some rest
  | b :: rest => if b < 0x20 then none else skipString rest

/-- Whether a code unit is the first half of a surrogate pair. -/
def isHighHalf (n : Nat) : Bool := 0xd800 ≤ n && n < 0xdc00

/-- Whether a code unit is the second half of a surrogate pair. -/
def isLowHalf (n : Nat) : Bool := 0xdc00 ≤ n && n < 0xe000

/-- A string, whose opening quote has been read, and the text behind it. -/
def readString : Bytes → Option (Bytes × Bytes)
  | [] => none
  | backslash :: 0x75 :: a :: b :: c :: d :: rest =>
    if isHex a && isHex b && isHex c && isHex d then
      let unit := readHex [a, b, c, d]
      if isHighHalf unit then
        match rest with
        | backslash :: 0x75 :: e :: f :: g :: h :: rest =>
          let second := readHex [e, f, g, h]
          if isHex e && isHex f && isHex g && isHex h && isLowHalf second then do
            let scalar ← encodeScalar? (0x10000 + (unit - 0xd800) * 0x400 + (second - 0xdc00))
            let (text, rest) ← readString rest
            return (scalar ++ text, rest)
          else none
        | _ => none
      else do
        let scalar ← encodeScalar? unit
        let (text, rest) ← readString rest
        return (scalar ++ text, rest)
    else none
  | backslash :: e :: rest =>
    if isPlainEscape e then (readString rest).map fun (text, rest) => (plainEscape e :: text, rest)
    else none
  | quote :: rest => some ([], rest)
  | b :: rest =>
    if b < 0x20 then none else (readString rest).map fun (text, rest) => (b :: text, rest)

/-- The text behind one or more digits. -/
def skipDigits (text : Bytes) : Option Bytes :=
  match text with
  | [] => none
  | b :: rest => if isDigit b then some (rest.dropWhile isDigit) else none

/-- The text behind the fraction of a number, if it has one. -/
def skipFraction : Bytes → Option Bytes
  | dot :: rest => skipDigits rest
  | text => some text

/-- The text behind the exponent of a number, if it has one. -/
def skipExponent : Bytes → Option Bytes
  | b :: rest =>
    if b = 0x65 || b = 0x45 then
      match rest with
      | plus :: digits => skipDigits digits
      | hyphen :: digits => skipDigits digits
      | digits => skipDigits digits
    else some (b :: rest)
  | [] => some []

/-- The text behind a number. -/
def skipNumber (text : Bytes) : Option Bytes := do
  let unsigned := match text with
    | hyphen :: rest => rest
    | text => text
  let behind ← match unsigned with
    | zero :: b :: rest => if isDigit b then none else some (b :: rest)
    | text => skipDigits text
  skipExponent (← skipFraction behind)

/-- An array or object that is still open. -/
inductive Frame where
  /-- An open array. -/
  | array
  /-- An open object. -/
  | object
  deriving DecidableEq, Repr

/-- What has to come next while a value is passed over. -/
inductive Expect where
  /-- A value. -/
  | value
  /-- A value, or the end of the array that was just opened. -/
  | firstItem
  /-- A key. -/
  | key
  /-- A key, or the end of the object that was just opened. -/
  | firstKey
  /-- What comes behind a value: a comma, an end, or nothing more. -/
  | behind
  deriving DecidableEq, Repr

/-- Passes over a scalar value or the opening of an array or object. -/
def skipStart (stack : List Frame) : Bytes → Option (List Frame × Expect × Bytes)
  | openBracket :: rest => some (.array :: stack, .firstItem, rest)
  | openBrace :: rest => some (.object :: stack, .firstKey, rest)
  | quote :: rest => (skipString rest).map fun rest => (stack, .behind, rest)
  | text =>
    ((skipWord "null" text).orElse fun _ =>
      (skipWord "true" text).orElse fun _ =>
        (skipWord "false" text).orElse fun _ => skipNumber text).map
      fun rest => (stack, .behind, rest)

/-- Passes over a key and its colon. -/
def skipKey (text : Bytes) : Option Bytes :=
  match text with
  | quote :: rest =>
    match (skipString rest).map skipBlanks with
    | some (colon :: rest) => some rest
    | _ => none
  | _ => none

/-- The text behind a value; every round passes over a byte or ends. -/
def skipRounds : Nat → List Frame → Expect → Bytes → Option Bytes
  | 0, _, _, _ => none
  | _ + 1, [], .behind, text => some text
  | fuel + 1, frame :: stack, .behind, text =>
    match skipBlanks text, frame with
    | comma :: rest, .array => skipRounds fuel (.array :: stack) .value rest
    | comma :: rest, .object => skipRounds fuel (.object :: stack) .key rest
    | closeBracket :: rest, .array => skipRounds fuel stack .behind rest
    | closeBrace :: rest, .object => skipRounds fuel stack .behind rest
    | _, _ => none
  | fuel + 1, stack, expect, text =>
    match expect, skipBlanks text with
    | .firstItem, closeBracket :: rest => skipRounds fuel (stack.drop 1) .behind rest
    | .firstKey, closeBrace :: rest => skipRounds fuel (stack.drop 1) .behind rest
    | .key, text | .firstKey, text =>
      match skipKey text with
      | none => none
      | some rest => skipRounds fuel stack .value rest
    | _, text =>
      match skipStart stack text with
      | none => none
      | some (stack, expect, rest) => skipRounds fuel stack expect rest

/-- The text behind a value. -/
def skipValue (text : Bytes) : Option Bytes := skipRounds (text.length + 2) [] .value text

end ContainerEntry.Json
