import ContainerEntry.Bytes

/-!
# Bracket expressions of patterns

A bracket expression matches one byte.  It is read while it is matched: its members are tried in
order, and once one has matched, the rest is skipped up to the closing bracket by rules of its own.
So the same text can be refused as a member and passed over by the skipping: an unknown class, for
one, is fatal only while members are tried.

A member is a byte, an escaped byte, a range, a class `[:name:]`, an equivalence `[=x=]` or a
symbol `[.x.]`.  A bracket that the pattern's end leaves open is an ordinary byte.  Both readings
walk along the pattern with a count of bytes to pass over, so that they recurse on the pattern.
-/

namespace ContainerEntry.Glob

open Bytes

/-- What came of matching a byte against a bracket expression. -/
inductive Bracket where
  /-- The whole pattern matches nothing. -/
  | broken
  /-- The bracket is never closed and is an ordinary byte. -/
  | ordinary
  /-- The expression was closed; `hit` tells whether a member matched. -/
  | closed (hit : Bool) (rest : Bytes)
  deriving DecidableEq, Repr

/-- The classes of ASCII bytes, by name. -/
def classes : List (Bytes × (UInt8 → Bool)) := [
  ("alpha", isAlpha),
  ("digit", isDigit),
  ("alnum", isAlnum),
  ("upper", isUpper),
  ("lower", isLower),
  ("space", fun b => b = space || (0x09 ≤ b && b ≤ 0x0d)),
  ("blank", fun b => b = space || b = tab),
  ("punct", fun b => 0x21 ≤ b && b ≤ 0x7e && !isAlnum b),
  ("print", fun b => 0x20 ≤ b && b ≤ 0x7e),
  ("graph", fun b => 0x21 ≤ b && b ≤ 0x7e),
  ("cntrl", fun b => b < 0x20 || b = 0x7f),
  ("xdigit", isHex)]

/-- The text behind `[:` read as a class. -/
inductive ClassName where
  /-- A name and its closing `:]`. -/
  | named (name : Bytes)
  /-- No class, so that the bracket before it is an ordinary member. -/
  | absent
  /-- More letters than any class could have. -/
  | overlong
  deriving DecidableEq, Repr

/-- A letter of a class name. -/
def isClassLetter (b : UInt8) : Bool := 0x61 ≤ b && b < 0x7a

/-- Reads a class name of at most `limit` letters. -/
def readClass (limit : Nat) (text : Bytes) : ClassName :=
  let name := text.takeWhile isClassLetter
  if limit < name.length then .overlong
  else match text.dropWhile isClassLetter with
    | colon :: closeBracket :: _ => .named name
    | _ => .absent

/-- The text before the first `.]`. -/
def readSymbol : Bytes → Option Bytes
  | dot :: closeBracket :: _ => some []
  | b :: rest => (readSymbol rest).map (b :: ·)
  | [] => none

/-- What came of trying one member. -/
inductive Trial where
  /-- The whole pattern matches nothing. -/
  | broken
  /-- The member matched; `used` bytes behind its first belong to it. -/
  | hit (used : Nat)
  /-- The member did not match; `used` bytes behind its first belong to it. -/
  | miss (used : Nat)
  deriving DecidableEq, Repr

/-- A member that starts with the byte `low`, already passed over by `used` bytes: with a hyphen
behind it, it is a range. -/
def tryRange (x low : UInt8) (used : Nat) : Bytes → Trial
  | hyphen :: closeBracket :: _ => .miss used
  | hyphen :: rest =>
    let within (high : UInt8) (more : Nat) : Trial :=
      if low ≤ x && x ≤ high then .hit (used + more) else .miss (used + more)
    match rest with
    | openBracket :: dot :: inner =>
      match readSymbol inner with
      | some [high] => within high 6
      | _ => .broken
    | backslash :: high :: _ => within high 3
    | [backslash] => .broken
    | high :: _ => within high 2
    | [] => .broken
  | _ => .miss used

/-- A member that is a byte, or a range that starts with it. -/
def tryByte (x byte : UInt8) (used : Nat) (rest : Bytes) : Trial :=
  let startsRange := match rest with
    | hyphen :: next :: _ => next != closeBracket
    | _ => false
  if !startsRange && x = byte then .hit used else tryRange x byte used rest

/-- The member that starts with `first`. -/
def tryMember (x first : UInt8) (rest : Bytes) : Trial :=
  if first = backslash then
    match rest with
    | [] => .broken
    | byte :: behind => tryByte x byte 1 behind
  else if first = openBracket then
    match rest with
    | colon :: text =>
      match readClass 2047 text with
      | .overlong => .broken
      | .absent => tryByte x first 0 rest
      | .named name =>
        match classes.lookup name with
        | none => .broken
        | some holds => if holds x then .hit (name.length + 3) else .miss (name.length + 3)
    | equals :: byte :: equals :: closeBracket :: _ => if x = byte then .hit 4 else .miss 4
    | dot :: text =>
      match readSymbol text with
      | some [byte] =>
        let behind := rest.drop 4
        let startsRange := match behind with
          | hyphen :: _ :: _ => true
          | _ => false
        if !startsRange && x = byte then .hit 4 else tryRange x byte 4 behind
      | _ => .broken
    | _ => tryByte x first 0 rest
  else tryByte x first 0 rest

/-- Passes over `skip` bytes and then over the members up to the closing bracket. -/
def skipMembers : Nat → Bytes → Bracket
  | _, [] => .ordinary
  | skip + 1, _ :: rest => skipMembers skip rest
  | 0, first :: rest =>
    if first = closeBracket then .closed true rest
    else if first = backslash then
      match rest with
      | [] => .broken
      | _ :: _ => skipMembers 1 rest
    else if first = openBracket then
      match rest with
      | colon :: text =>
        match readClass 2046 text with
        | .overlong => .broken
        | .absent => skipMembers 0 rest
        | .named name => skipMembers (name.length + 3) rest
      | equals :: text =>
        match text with
        | _ :: equals :: closeBracket :: _ => skipMembers 4 rest
        | _ => .broken
      | dot :: text =>
        match readSymbol text with
        | none => .broken
        | some symbol => skipMembers (symbol.length + 3) rest
      | _ => skipMembers 0 rest
    else skipMembers 0 rest

/-- Passes over `skip` bytes and then tries the members; a closing bracket in first place is a
member. -/
def tryMembers (x : UInt8) : Nat → Bool → Bytes → Bracket
  | _, _, [] => .ordinary
  | skip + 1, isFirst, _ :: rest => tryMembers x skip isFirst rest
  | 0, isFirst, first :: rest =>
    if first = closeBracket && !isFirst then .closed false rest
    else match tryMember x first rest with
      | .broken => .broken
      | .hit used => skipMembers used rest
      | .miss used => tryMembers x used false rest

/-- Matches a byte against the expression whose text follows an opening bracket; a `!` or `^`
before the members negates them. -/
def matchBracket (x : UInt8) (text : Bytes) : Bracket :=
  let negated := match text with
    | 0x21 :: _ | 0x5e :: _ => true
    | _ => false
  match tryMembers x 0 true (if negated then text.drop 1 else text) with
  | .closed hit rest => .closed (hit != negated) rest
  | other => other

end ContainerEntry.Glob
