import ContainerEntry.Bytes

/-!
# TOML items

A document is a table of items.  Only texts can be settings, so the other scalars are told apart no
further than dates are from the rest.

Tables come about in four ways, which decide what may be added later: by a header, as a parent of a
table with a header, by a dotted key, and inline.  `editAt` walks a path of keys and creates the
tables that are missing; what it refuses is what the format forbids: to reach into a value, to
reopen an inline table, or to extend a table that has a header by a dotted key.
-/

namespace ContainerEntry.Toml

/-- How a table came about. -/
inductive Origin where
  /-- The document itself, or a header names the table. -/
  | header
  /-- A header names a table below it. -/
  | implied
  /-- A dotted key leads through it. -/
  | dotted
  /-- It is written in braces. -/
  | inline
  deriving DecidableEq, Repr

/-- An item of a document. -/
inductive Item where
  /-- A text. -/
  | text (value : Bytes)
  /-- A number or a truth value. -/
  | scalar
  /-- A date, a time or both. -/
  | date
  /-- An array of values. -/
  | array (items : List Item)
  /-- A table. -/
  | table (origin : Origin) (entries : List (Bytes × Item))
  /-- An array of tables with headers. -/
  | tables (all : List (List (Bytes × Item)))
  deriving Repr

/-- The entries of a table. -/
abbrev Entries := List (Bytes × Item)

/-- The entries with the item of a key replaced. -/
def Entries.set (key : Bytes) (item : Item) (entries : Entries) : Entries :=
  entries.map fun (k, i) => if k = key then (k, item) else (k, i)

/-- Edits the table at a path below a table, creating the tables on the way.  `dotted` tells a
dotted key from the path of a header. -/
def editAt (dotted : Bool) (edit : Origin → Entries → Option Entries) :
    List Bytes → Origin → Entries → Option Entries
  | [], origin, entries => edit origin entries
  | key :: path, _, entries =>
    match entries.lookup key with
    | none =>
      let origin := if dotted then Origin.dotted else Origin.implied
      (editAt dotted edit path origin []).map fun below =>
        entries ++ [(key, .table origin below)]
    | some (.table origin below) =>
      if origin = .inline || (dotted && origin = .header) then none
      else (editAt dotted edit path origin below).map fun below =>
        entries.set key (.table origin below)
    | some (.tables all) =>
      match all.getLast? with
      | none => none
      | some last =>
        (editAt dotted edit path .header last).map fun last =>
          entries.set key (.tables (all.dropLast ++ [last]))
    | some _ => none

/-- Adds a key to a table that a path of `depth` keys led to.  A table that dotted keys made takes
dotted keys only, and every other table takes plain keys only. -/
def addKey (depth : Nat) (key : Bytes) (item : Item) (origin : Origin) (entries : Entries) :
    Option Entries :=
  if (origin = .dotted) = (depth = 0) then none
  else if (entries.lookup key).isSome then none
  else some (entries ++ [(key, item)])

/-- Adds an assignment below a table; the last of the keys is the one assigned. -/
def assign (keys : List Bytes) (item : Item) (origin : Origin) (entries : Entries) :
    Option Entries :=
  match keys.getLast? with
  | none => none
  | some key =>
    editAt true (addKey keys.dropLast.length key item) keys.dropLast origin entries

/-- Opens the table of a header in its parent.  A table that was only implied becomes the header's
own; any other item of the name is a repetition. -/
def openTable (key : Bytes) (_ : Origin) (entries : Entries) : Option Entries :=
  match entries.lookup key with
  | none => some (entries ++ [(key, .table .header [])])
  | some (.table .implied below) => some (entries.set key (.table .header below))
  | some _ => none

/-- Opens one more table of an array of tables in its parent. -/
def openElement (key : Bytes) (_ : Origin) (entries : Entries) : Option Entries :=
  match entries.lookup key with
  | none => some (entries ++ [(key, .tables [[]])])
  | some (.tables all) => some (entries.set key (.tables (all ++ [[]])))
  | some _ => none

end ContainerEntry.Toml
