import ContainerEntry.Toml.Item
import ContainerEntry.Toml.Number

/-!
# TOML documents

A document is read line by line into one table.  A line is blank, a comment, a header or an
assignment; headers say which table the assignments below them go to.

Values are read with a bound on how deeply they may still be nested, and within one value with a
bound on the number of its parts, which is never more than the length of the text.
-/

namespace ContainerEntry.Toml

open Bytes

/-- Reads a value and the text behind it. -/
abbrev ValueReader := Bytes → Option (Item × Bytes)

/-- The items of an array, whose opening bracket has been read. -/
def readItems (value : ValueReader) : Nat → Bytes → Option (List Item × Bytes)
  | 0, _ => none
  | fuel + 1, text => do
    match ← skipLines (text.length + 1) text with
    | closeBracket :: rest => return ([], rest)
    | text =>
      let (item, rest) ← value text
      match ← skipLines (rest.length + 1) rest with
      | comma :: rest =>
        let (items, rest) ← readItems value fuel rest
        return (item :: items, rest)
      | closeBracket :: rest => return ([item], rest)
      | _ => none

/-- An assignment: its keys, its value and the text behind them. -/
def readAssignment (value : ValueReader) (text : Bytes) :
    Option (List Bytes × Item × Bytes) := do
  let (keys, rest) ← readKey text
  let (item, rest) ← value (skipBlanks (← skipByte equals rest))
  return (keys, item, rest)

/-- The assignments of an inline table, whose opening brace has been read, added to `entries`. -/
def readInline (value : ValueReader) : Nat → Entries → Bytes → Option (Entries × Bytes)
  | 0, _, _ => none
  | fuel + 1, entries, text => do
    let (keys, item, rest) ← readAssignment value text
    let entries ← assign keys item .inline entries
    match skipBlanks rest with
    | comma :: rest => readInline value fuel entries rest
    | closeBrace :: rest => return (entries, rest)
    | _ => none

/-- A value without parts. -/
def readPlain (text : Bytes) : Option (Item × Bytes) :=
  match text with
  | [] => none
  | b :: _ =>
    if b = quote || b = apostrophe then (readText text).map fun (t, rest) => (.text t, rest)
    else if isDigit b || b = plus || b = hyphen then
      match skipMoment text with
      | some rest => some (.date, rest)
      | none =>
        match readFloat text with
        | some _ => (skipFloat text).map fun rest => (.scalar, rest)
        | none =>
          ((skipFloat text).orElse fun _ => skipInteger text).map fun rest => (.scalar, rest)
    else
      ((((skipWord "true" text).orElse fun _ => skipWord "false" text).orElse fun _ =>
        skipWord "inf" text).orElse fun _ => skipWord "nan" text).map fun rest => (.scalar, rest)

/-- A value in which arrays and inline tables are nested at most so deeply. -/
def readValue : (depth : Nat) → ValueReader
  | 0, text => readPlain text
  | depth + 1, text =>
    match text with
    | openBracket :: rest =>
      (readItems (readValue depth) (rest.length + 1) rest).map fun (items, rest) =>
        (.array items, rest)
    | openBrace :: rest =>
      match skipBlanks rest with
      | closeBrace :: rest => some (.table .inline [], rest)
      | _ =>
        (readInline (readValue depth) (rest.length + 1) [] rest).map fun (entries, rest) =>
          (.table .inline entries, rest)
    | text => readPlain text

/-- A document that has been read so far. -/
structure Draft where
  /-- The entries of the document. -/
  entries : Entries
  /-- The keys of the header whose table is open. -/
  header : List Bytes
  deriving Repr

namespace Draft

/-- The draft with a table opened by a header. -/
def openHeader (draft : Draft) (keys : List Bytes)
    (add : Bytes → Origin → Entries → Option Entries) : Option Draft :=
  match keys.getLast? with
  | none => none
  | some key =>
    (editAt false (add key) keys.dropLast .header draft.entries).map fun entries =>
      ⟨entries, keys⟩

/-- The draft with an assignment in its open table. -/
def add (draft : Draft) (keys : List Bytes) (item : Item) : Option Draft :=
  (editAt false (assign keys item) draft.header .header draft.entries).map fun entries =>
    { draft with entries := entries }

end Draft

/-- Reads one line, and gives the draft and the text behind the line. -/
def readLine (draft : Draft) (text : Bytes) : Option (Draft × Bytes) :=
  match text with
  | openBracket :: openBracket :: rest => do
    let (keys, rest) ← readKey rest
    let rest ← finishLine (← skipByte closeBracket (← skipByte closeBracket rest))
    return (← draft.openHeader keys openElement, rest)
  | openBracket :: rest => do
    let (keys, rest) ← readKey rest
    let rest ← finishLine (← skipByte closeBracket rest)
    return (← draft.openHeader keys openTable, rest)
  | text => do
    let (keys, item, rest) ← readAssignment (readValue (depthLimit - 1)) text
    return (← draft.add keys item, ← finishLine rest)

/-- Reads the lines of a text; every round passes over a line. -/
def readLines : Nat → Draft → Bytes → Option Draft
  | 0, _, _ => none
  | fuel + 1, draft, text =>
    match skipBlanks text with
    | [] => some draft
    | b :: rest =>
      if b = lineFeed || b = carriageReturn || b = Bytes.hash then
        (finishLine (b :: rest)).bind (readLines fuel draft)
      else (readLine draft (b :: rest)).bind fun (draft, rest) => readLines fuel draft rest

/-- The text without a byte order mark. -/
def dropMark : Bytes → Bytes
  | 0xef :: 0xbb :: 0xbf :: rest => rest
  | text => text

/-- The entries of a document. -/
def parse? (text : Bytes) : Option Entries :=
  (readLines (text.length + 1) ⟨[], []⟩ (dropMark text)).map Draft.entries

end ContainerEntry.Toml
