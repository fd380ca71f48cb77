import ContainerEntry.Text.Decimal
import ContainerEntry.Text.Utf8

/-!
# Blanks, texts and keys

The small pieces of a document's lines.  Each reader gives what it read and the text behind it.

Quoted texts come in four forms.  The forms on one line hold no line break; the forms with tripled
quotes may, drop a line break right behind the opening quotes, write every line break as a single
line feed, and may hold one or two quotes anywhere, even right before the closing ones.
-/

namespace ContainerEntry.Toml

open Bytes ContainerEntry.Text

/-- A blank within a line. -/
def isBlank (b : UInt8) : Bool := b = space || b = tab

/-- The text without the blanks it starts with. -/
def skipBlanks (text : Bytes) : Bytes := text.dropWhile isBlank

/-- The text behind a line break. -/
def skipNewline : Bytes → Option Bytes
  | lineFeed :: rest => some rest
  | carriageReturn :: lineFeed :: rest => some rest
  | _ => none

/-- A byte that may stand in a comment or, quotes and backslashes apart, in a text. -/
def isPrintable (b : UInt8) : Bool := b = tab || (0x20 ≤ b && b != 0x7f)

/-- The text behind a comment that may stand here. -/
def skipComment : Bytes → Bytes
  | Bytes.hash :: rest => rest.dropWhile isPrintable
  | text => text

/-- The text behind the rest of a line that may hold nothing but a comment. -/
def finishLine (text : Bytes) : Option Bytes :=
  match skipComment (skipBlanks text) with
  | [] => some []
  | rest => skipNewline rest

/-- The text without the blanks, comments and line breaks it starts with; every round passes over
a line. -/
def skipLines : Nat → Bytes → Option Bytes
  | 0, _ => none
  | fuel + 1, text =>
    match skipBlanks text with
    | Bytes.hash :: rest => (skipNewline (rest.dropWhile isPrintable)).bind (skipLines fuel)
    | lineFeed :: rest => skipLines fuel rest
    | carriageReturn :: rest => (skipNewline (carriageReturn :: rest)).bind (skipLines fuel)
    | rest => some rest

/-! ### Quoted texts -/

/-- The byte of an escape's letter. -/
def escapeByte? (b : UInt8) : Option UInt8 :=
  if b = 0x62 then some 0x08 else if b = 0x66 then some 0x0c
  else if b = 0x6e then some lineFeed else if b = 0x72 then some carriageReturn
  else if b = 0x74 then some tab else if b = quote || b = backslash then some b else none

/-- The scalar value of exactly `n` hexadecimal digits. -/
def readScalar (n : Nat) (text : Bytes) : Option (Bytes × Bytes) :=
  let digits := text.take n
  if digits.length = n && digits.all isHex then
    (encodeScalar? (readHex digits)).map fun bytes => (bytes, text.drop n)
  else none

/-- The bytes of an escape whose backslash has been read. -/
def readEscape : Bytes → Option (Bytes × Bytes)
  | 0x75 :: rest => readScalar 4 rest
  | 0x55 :: rest => readScalar 8 rest
  | b :: rest => (escapeByte? b).map fun b => ([b], rest)
  | [] => none

/-- A text in quotes on one line, whose opening quote has been read; every round reads a
character. -/
def readBasic : Nat → Bytes → Option (Bytes × Bytes)
  | 0, _ => none
  | _ + 1, [] => none
  | _ + 1, quote :: rest => some ([], rest)
  | fuel + 1, backslash :: rest => do
    let (bytes, rest) ← readEscape rest
    let (text, rest) ← readBasic fuel rest
    return (bytes ++ text, rest)
  | fuel + 1, b :: rest =>
    if isPrintable b then (readBasic fuel rest).map fun (text, rest) => (b :: text, rest)
    else none

/-- A text in apostrophes on one line, whose opening apostrophe has been read. -/
def readLiteral : Bytes → Option (Bytes × Bytes)
  | [] => none
  | apostrophe :: rest => some ([], rest)
  | b :: rest =>
    if isPrintable b then (readLiteral rest).map fun (text, rest) => (b :: text, rest) else none

/-- How many quotes a text starts with. -/
def countQuotes (q : UInt8) (text : Bytes) : Nat := (text.takeWhile (· == q)).length

/-- The text without blanks and line breaks at its start. -/
def skipSpace : Nat → Bytes → Bytes
  | 0, text => text
  | fuel + 1, text =>
    match skipNewline (skipBlanks text) with
    | some rest => skipSpace fuel rest
    | none => skipBlanks text

/-- A text in tripled quotes, whose opening quotes have been read; every round reads a character, a
line break or a run of quotes.  With `escapes`, backslashes have a meaning. -/
def readLong (q : UInt8) (escapes : Bool) : Nat → Bytes → Option (Bytes × Bytes)
  | 0, _ => none
  | _ + 1, [] => none
  | fuel + 1, b :: rest =>
    if b = q then
      let run := countQuotes q (b :: rest)
      if run < 3 then
        (readLong q escapes fuel ((b :: rest).drop run)).map fun (text, behind) =>
          (List.replicate run q ++ text, behind)
      else
        let kept := min (run - 3) 2
        some (List.replicate kept q, (b :: rest).drop (kept + 3))
    else if escapes && b = backslash then
      match skipNewline (skipBlanks rest) with
      | some behind => readLong q escapes fuel (skipSpace behind.length behind)
      | none => do
        let (bytes, rest) ← readEscape rest
        let (text, rest) ← readLong q escapes fuel rest
        return (bytes ++ text, rest)
    else match skipNewline (b :: rest) with
      | some behind =>
        (readLong q escapes fuel behind).map fun (text, behind) => (lineFeed :: text, behind)
      | none =>
        if isPrintable b then
          (readLong q escapes fuel rest).map fun (text, behind) => (b :: text, behind)
        else none

/-- The text without a line break right at its start. -/
def dropNewline (text : Bytes) : Bytes := (skipNewline text).getD text

/-- A quoted text of any form. -/
def readText : Bytes → Option (Bytes × Bytes)
  | quote :: quote :: quote :: rest => readLong quote true (rest.length + 1) (dropNewline rest)
  | quote :: rest => readBasic (rest.length + 1) rest
  | apostrophe :: apostrophe :: apostrophe :: rest =>
    readLong apostrophe false (rest.length + 1) (dropNewline rest)
  | apostrophe :: rest => readLiteral rest
  | _ => none

/-! ### Keys -/

/-- A byte of a key without quotes. -/
def isKeyByte (b : UInt8) : Bool := isAlnum b || b = hyphen || b = underscore

/-- One key. -/
def readSimpleKey : Bytes → Option (Bytes × Bytes)
  | quote :: rest => readBasic (rest.length + 1) rest
  | apostrophe :: rest => readLiteral rest
  | text =>
    match text.takeWhile isKeyByte with
    | [] => none
    | key => some (key, text.dropWhile isKeyByte)

/-- Keys with dots between them and blanks around them; every round reads a key. -/
def readKeyParts : Nat → Bytes → Option (List Bytes × Bytes)
  | 0, _ => none
  | fuel + 1, text => do
    let (key, rest) ← readSimpleKey (skipBlanks text)
    match skipBlanks rest with
    | dot :: rest =>
      let (keys, rest) ← readKeyParts fuel rest
      return (key :: keys, rest)
    | rest => return ([key], rest)

/-- Fewer keys than this may be joined by dots, and values be nested less deeply. -/
def depthLimit : Nat := 80

/-- A dotted key. -/
def readKey (text : Bytes) : Option (List Bytes × Bytes) :=
  (readKeyParts (text.length + 1) text).bind fun (keys, rest) =>
    if keys.length < depthLimit then some (keys, rest) else none

end ContainerEntry.Toml
