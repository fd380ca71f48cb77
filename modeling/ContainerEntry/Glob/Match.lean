import ContainerEntry.Glob.Bracket

/-!
# Shell patterns

A pattern is matched against a whole name, byte by byte: `?` is one byte, `*` any number of bytes,
`\x` the byte x, a bracket expression one byte of a set.  Slashes and leading dots are bytes like
any others.

Between two stars every element of a pattern matches exactly one byte, so a segment either fails or
ends at a definite place.  For a star it is enough to take the first place where the segment behind
it succeeds: a later star can make up for whatever that leaves out.  So nothing is ever tried
twice, and the number of stars bounds the work.
-/

namespace ContainerEntry.Glob

open Bytes

/-- Where matching a segment ended. -/
inductive Segment where
  /-- The segment does not match here. -/
  | mismatch
  /-- Pattern and name ended together. -/
  | finished
  /-- A star was met: the pattern behind it and the name from there on. -/
  | star (pattern name : Bytes)
  deriving DecidableEq, Repr

/-- Matches the first element of a pattern, which is no star, against one byte, and gives the
pattern behind the element. -/
def matchOne (x : UInt8) : Bytes → Option Bytes
  | [] => none
  | question :: rest => some rest
  | backslash :: rest =>
    match rest with
    | [] => none
    | byte :: behind => if x = byte then some behind else none
  | openBracket :: rest =>
    match matchBracket x rest with
    | .broken => none
    | .ordinary => if x = openBracket then some rest else none
    | .closed true behind => some behind
    | .closed false _ => none
  | byte :: rest => if x = byte then some rest else none

/-- Matches a name against a pattern up to the pattern's next star. -/
def matchSegment : (name pattern : Bytes) → Segment
  | name, asterisk :: pattern => .star pattern name
  | [], [] => .finished
  | _ :: _, [] => .mismatch
  | [], _ :: _ => .mismatch
  | x :: name, pattern =>
    match matchOne x pattern with
    | none => .mismatch
    | some rest => matchSegment name rest

/-- Passes over a run of stars and question marks; each question mark takes a byte. -/
def passStars : (pattern name : Bytes) → Option (Bytes × Bytes)
  | asterisk :: pattern, name => passStars pattern name
  | question :: pattern, name =>
    match name with
    | [] => none
    | _ :: name => passStars pattern name
  | pattern, name => some (pattern, name)

/-- The first place in a name, before its end, where a segment matches. -/
def firstMatch (pattern : Bytes) : Bytes → Segment
  | [] => .mismatch
  | x :: name =>
    match matchSegment (x :: name) pattern with
    | .mismatch => firstMatch pattern name
    | found => found

/-- Matches a name against the pattern behind a star; there are at most `stars` more of them. -/
def matchBehindStar : (stars : Nat) → (pattern name : Bytes) → Bool
  | 0, _, _ => false
  | stars + 1, pattern, name =>
    match passStars pattern name with
    | none => false
    | some ([], _) => true
    | some (pattern, name) =>
      match firstMatch pattern name with
      | .mismatch => false
      | .finished => true
      | .star pattern name => matchBehindStar stars pattern name

/-- Whether a pattern matches a whole name. -/
def isMatch (pattern name : Bytes) : Bool :=
  match matchSegment name pattern with
  | .mismatch => false
  | .finished => true
  | .star behind rest => matchBehindStar (pattern.length + 1) behind rest

/-- Whether a pattern matches a name; `none` when either holds a NUL. -/
def isMatch? (pattern name : Bytes) : Option Bool :=
  if pattern.contains nul || name.contains nul then none else some (isMatch pattern name)

end ContainerEntry.Glob
