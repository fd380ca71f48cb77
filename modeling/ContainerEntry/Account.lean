import ContainerEntry.Text.Decimal

/-!
# Accounts

The password database has one account a line: the name, the password, the numbers of the user and of
the primary group, a comment, the home directory and the login shell, with colons between them.  A
line that has too few fields or no numbers is no account.
-/

namespace ContainerEntry

open Bytes Text

/-- An entry of the password database. -/
structure Account where
  /-- The user's name. -/
  name : Bytes
  /-- The user's number. -/
  uid : UInt32
  /-- The number of the user's primary group. -/
  gid : Nat
  /-- The user's home directory. -/
  home : Bytes
  deriving DecidableEq, Repr

namespace Account

/-- The account of a user id in a password database. -/
def find? (accounts : List Account) (uid : UInt32) : Option Account :=
  accounts.find? fun a => a.uid == uid

/-- A user id written in decimal, with a plus sign or without. -/
def readUid? (text : Bytes) : Option UInt32 :=
  (readUnsigned? text).bind fun n => if n < UInt32.size then some (UInt32.ofNat n) else none

/-- The account of a line. -/
def ofLine? (line : Bytes) : Option Account :=
  match fields colon line with
  | name :: _ :: uid :: gid :: _ :: home :: _ =>
    match readUid? uid, readUnsigned? gid with
    | some uid, some gid => some ⟨name, uid, gid, home⟩
    | _, _ => none
  | _ => none

/-- The accounts of a password database. -/
def database (content : Bytes) : List Account := (fields lineFeed content).filterMap ofLine?

end Account

end ContainerEntry
