import ContainerEntry.Json.Scan

/-!
# A container's configuration

The file holds one JSON document: an object with the member `Boot`, or an array with the flag as
its only item.  The flag says whether the container runs an init system of its own, and it is off
unless it is given.  Other members are passed over.
-/

namespace ContainerEntry.Container

open Bytes Json

/-- A container's configuration. -/
structure Config where
  /-- Whether the container runs an init system. -/
  boot : Bool
  deriving DecidableEq, Repr

namespace Config

/-- A flag, and the text behind it. -/
def readFlag (text : Bytes) : Option (Bool × Bytes) :=
  match skipWord "true" text with
  | some rest => some (true, rest)
  | none => (skipWord "false" text).map fun rest => (false, rest)

/-- The configuration of a text that ends after it. -/
def finish (boot : Option Bool) (text : Bytes) : Option Config :=
  if (skipBlanks text).isEmpty then some ⟨boot.getD false⟩ else none

/-- Reads the members of an object from a key on; every round passes over a member. -/
def readMembers : Nat → Option Bool → Bytes → Option Config
  | 0, _, _ => none
  | fuel + 1, boot, text =>
    match skipBlanks text with
    | quote :: rest =>
      match readString rest with
      | none => none
      | some (key, rest) =>
        match skipBlanks rest with
        | colon :: rest =>
          let read : Option (Option Bool × Bytes) :=
            if key = ofString "Boot" then
              if boot.isSome then none
              else (readFlag (skipBlanks rest)).map fun (flag, rest) => (some flag, rest)
            else (skipValue rest).map fun rest => (boot, rest)
          match read with
          | none => none
          | some (boot, rest) =>
            match skipBlanks rest with
            | comma :: rest => readMembers fuel boot rest
            | closeBrace :: rest => finish boot rest
            | _ => none
        | _ => none
    | _ => none

/-- The configuration of a JSON document. -/
def parse? (text : Bytes) : Option Config :=
  match skipBlanks text with
  | openBrace :: rest =>
    match skipBlanks rest with
    | closeBrace :: rest => finish none rest
    | members => readMembers (members.length + 1) none members
  | openBracket :: rest =>
    match skipBlanks rest with
    | closeBracket :: rest => finish none rest
    | items =>
      match readFlag items with
      | none => none
      | some (flag, rest) =>
        match skipBlanks rest with
        | closeBracket :: rest => finish (some flag) rest
        | _ => none
  | _ => none

end Config

end ContainerEntry.Container
