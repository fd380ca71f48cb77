import ContainerEntry.Bytes

/-!
# Paths

A path is a byte string.  It is absolute when it starts with a slash, and its components are the
pieces between slashes that are neither empty nor a single dot; a double dot is the parent step,
and every other piece is a normal component.

`join` keeps both texts as they are: one slash goes between them unless the first already ends in
one, and an absolute second path replaces the first.  `descend` appends normal components only, so
that no list of parts leads out of the directory it starts from.
-/

namespace ContainerEntry.Path

open Bytes

/-- A path that starts at the root. -/
def isAbsolute : Bytes → Bool
  | slash :: _ => true
  | _ => false

/-- Whether a path ends in a slash. -/
def endsInSlash (p : Bytes) : Bool := p.getLast? == some slash

/-- `p` looked up from `base`. -/
def join (base p : Bytes) : Bytes :=
  if isAbsolute p then p
  else if base.isEmpty || endsInSlash base then base ++ p
  else base ++ slash :: p

/-- A piece that names an entry of a directory. -/
def isNormal (piece : Bytes) : Bool :=
  piece != [] && piece != [dot] && piece != [dot, dot]

/-- The normal components of a path, in order: no root, no dot, no parent step. -/
def normals (p : Bytes) : List Bytes := (fields slash p).filter isNormal

/-- The path that leads from `base` through the normal components of `parts`. -/
def descend (base : Bytes) (parts : List Bytes) : Bytes :=
  (parts.flatMap normals).foldl join base

/-- One step of a path. -/
inductive Component where
  /-- The root of the tree. -/
  | root
  /-- The directory itself, written at the start of a relative path. -/
  | here
  /-- The parent directory. -/
  | parent
  /-- An entry of the directory. -/
  | normal (name : Bytes)
  deriving DecidableEq, Repr

/-- The steps of a path.  A dot counts only at the start of a relative path, where it keeps the
path from being empty. -/
def components (p : Bytes) : List Component :=
  let steps (pieces : List Bytes) : List Component :=
    pieces.filterMap fun piece =>
      if piece = [] || piece = [dot] then none
      else if piece = [dot, dot] then some .parent
      else some (.normal piece)
  if isAbsolute p then .root :: steps (fields slash p)
  else match fields slash p with
    | [dot] :: rest => .here :: steps rest
    | pieces => steps pieces

end ContainerEntry.Path
