import ContainerEntry.Filesystem.Tree

/-!
# Changes to the tree of files

A change adds nodes at the end of the array and sets the entries of directories; it never touches
the content of another node.  Opening a file for locking is the one change that an entry makes
itself: `openOrCreate` puts an empty file where a path leads to a vacant name.  The others are what
people and programs do to a container's directory meanwhile.

Opening follows a link at the end of a path, so it works on the place that `resolve` finds.  Names
are made, moved and removed at a `Spot`, where a link is a name like any other.
-/

namespace ContainerEntry.Filesystem

open Bytes

/-- The tree with one node set. -/
def setNode (fs : Filesystem) (i : Inode) (node : Node) : Filesystem :=
  { fs with nodes := fs.nodes.set! i node }

/-- The tree with the entries of one directory changed. -/
def editEntries (fs : Filesystem) (directory : Inode)
    (edit : List (Bytes × Inode) → List (Bytes × Inode)) : Filesystem :=
  match fs.node? directory with
  | some (.directory parent entries) => fs.setNode directory (.directory parent (edit entries))
  | _ => fs

/-- The tree with a name added to a directory. -/
def addEntry (fs : Filesystem) (directory : Inode) (name : Bytes) (i : Inode) : Filesystem :=
  fs.editEntries directory (· ++ [(name, i)])

/-- The tree with a name taken out of a directory. -/
def dropEntry (fs : Filesystem) (directory : Inode) (name : Bytes) : Filesystem :=
  fs.editEntries directory (·.filter (·.1 != name))

/-- The tree with a new node under a name, and the node's inode. -/
def place (fs : Filesystem) (directory : Inode) (name : Bytes) (node : Node) :
    Inode × Filesystem :=
  (fs.nodes.size, { fs with nodes := fs.nodes.push node }.addEntry directory name fs.nodes.size)

/-- Opens a regular file for reading and writing, creating an empty one where the path leads to a
vacant name. -/
def openOrCreate (fs : Filesystem) (path : Bytes) (mode : Nat) :
    Except Fault (Inode × Filesystem) :=
  match checked path with
  | .error fault => .error fault
  | .ok path =>
    match fs.resolve path .wantedFile with
    | .error e => .error (.os e)
    | .ok (.vacant _ _ true) | .ok (.found _ true) => .error (.os .isDirectory)
    | .ok (.vacant directory name false) => .ok (fs.place directory name (.file [] mode))
    | .ok (.found i false) =>
      match fs.node? i with
      | some (.directory _ _) => .error (.os .isDirectory)
      | some .socket => .error (.os .noSuchDevice)
      | _ => .ok (i, fs)

/-- Opens what stands at a path for reading. -/
def openExisting (fs : Filesystem) (path : Bytes) : Except Fault Inode :=
  match fs.inode path with
  | .error fault => .error fault
  | .ok i =>
    match fs.node? i with
    | some .socket => .error (.os .noSuchDevice)
    | _ => .ok i

/-- Opens what stands at a path for reading and writing. -/
def openForUse (fs : Filesystem) (path : Bytes) : Except Fault Inode :=
  match fs.inode path with
  | .error fault => .error fault
  | .ok i =>
    match fs.node? i with
    | some (.directory _ _) => .error (.os .isDirectory)
    | some .socket => .error (.os .noSuchDevice)
    | _ => .ok i

/-- The directory at a path. -/
def directoryAt (fs : Filesystem) (path : Bytes) : Except Errno Inode :=
  match fs.existing path true with
  | .error e => .error e
  | .ok i =>
    match fs.node? i with
    | some (.directory _ _) => .ok i
    | _ => .error .notDirectory

/-- The spot that a change of names works on: the last name of a path, in the directory that the
names before it lead to.  A link at that name is not followed. -/
structure Spot where
  /-- The directory. -/
  directory : Inode
  /-- The name. -/
  name : Bytes
  /-- Whether a slash stands behind the name. -/
  asDirectory : Bool
  deriving DecidableEq, Repr

/-- The spot of a path.  A path that ends in `.` or `..`, or that is the root's, has none, which is
the error `unnamed`. -/
def spot (fs : Filesystem) (path : Bytes) (unnamed : Errno) : Except Errno Spot :=
  if path.isEmpty then .error .noEntry
  else if maxPath ≤ path.length then .error .nameTooLong
  else
    let names := (fields slash path).filter (· != [])
    match fs.walk .followed maxLinks (fs.start path fs.here) names.dropLast with
    | .error e => .error e
    | .ok (.vacant _ _ _) => .error .noEntry
    | .ok (.found directory _) =>
      match fs.node? directory, names.getLast? with
      | some (.directory _ _), some name =>
        if !Path.isNormal name then .error unnamed
        else if maxName < name.length then .error .nameTooLong
        else .ok ⟨directory, name, Path.endsInSlash path⟩
      | some (.directory _ _), none => .error unnamed
      | _, _ => .error .notDirectory

/-- The inode whose name stands at a spot. -/
def at? (fs : Filesystem) (spot : Spot) : Option Inode :=
  match fs.node? spot.directory with
  | some (.directory _ entries) => entries.lookup spot.name
  | _ => none

/-- The spot of a path at which no name stands. -/
def vacantSpot (fs : Filesystem) (path : Bytes) : Except Errno Spot :=
  match fs.spot path .alreadyExists with
  | .error e => .error e
  | .ok spot => if (fs.at? spot).isSome then .error .alreadyExists else .ok spot

/-- A vacant spot for what is no directory. -/
def vacancy (fs : Filesystem) (path : Bytes) : Except Errno Spot :=
  match fs.vacantSpot path with
  | .error e => .error e
  | .ok spot => if spot.asDirectory then .error .noEntry else .ok spot

/-- Makes a directory. -/
def makeDirectory (fs : Filesystem) (path : Bytes) : Except Errno Filesystem :=
  (fs.vacantSpot path).map fun spot =>
    (fs.place spot.directory spot.name (.directory spot.directory [])).2

/-- Makes the directories of a path that are missing. -/
def makeDirectories (fs : Filesystem) (path : Bytes) : Filesystem :=
  let names := (fields slash path).filter (· != [])
  let base : Bytes := if Path.isAbsolute path then [slash] else []
  (names.foldl
    (fun (made, base) name =>
      let next := Path.join base name
      ((made.makeDirectory next).toOption.getD made, next))
    (fs, base)).1

/-- Makes what is no directory, and tells its inode. -/
def make (fs : Filesystem) (node : Node) (path : Bytes) : Except Errno (Inode × Filesystem) :=
  (fs.vacancy path).map fun spot => fs.place spot.directory spot.name node

/-- Makes a symbolic link. -/
def makeSymlink (fs : Filesystem) (target path : Bytes) : Except Errno Filesystem :=
  if target.isEmpty then .error .noEntry
  else if maxPath ≤ target.length then .error .nameTooLong
  else (fs.make (.symlink target) path).map (·.2)

/-- Gives a file, a link or a socket a second name. -/
def makeLink (fs : Filesystem) (path new : Bytes) : Except Errno Filesystem :=
  match fs.existing path false, fs.vacancy new with
  | .error e, _ | _, .error e => .error e
  | .ok i, .ok spot =>
    match fs.node? i with
    | some (.directory _ _) => .error .notPermitted
    | _ => .ok (fs.addEntry spot.directory spot.name i)

/-- Writes a whole file, creating it where its name is vacant. -/
def writeFile (fs : Filesystem) (path content : Bytes) (mode : Nat) :
    Except Fault Filesystem :=
  (fs.openOrCreate path mode).map fun (i, fs) =>
    match fs.node? i with
    | some (.file _ kept) => fs.setNode i (.file content kept)
    | _ => fs

/-- Whether a node is a directory, and whether it holds names. -/
def directoryEntries? (fs : Filesystem) (i : Inode) : Option (List (Bytes × Inode)) :=
  match fs.node? i with
  | some (.directory _ entries) => some entries
  | _ => none

/-- What stands at the spot of a path; a slash behind the name asks for a directory. -/
def occupied (fs : Filesystem) (path : Bytes) : Except Errno (Spot × Inode) :=
  match fs.spot path .busy with
  | .error e => .error e
  | .ok spot =>
    match fs.at? spot with
    | none => .error .noEntry
    | some i =>
      if spot.asDirectory && (fs.directoryEntries? i).isNone then .error .notDirectory
      else .ok (spot, i)

/-- Takes away the name of anything but a directory with names in it. -/
def remove (fs : Filesystem) (path : Bytes) : Except Errno Filesystem :=
  match fs.occupied path with
  | .error e => .error e
  | .ok (spot, i) =>
    match fs.directoryEntries? i with
    | some (_ :: _) => .error .notEmpty
    | _ => .ok (fs.dropEntry spot.directory spot.name)

/-- Takes away the name of a directory with everything in it. -/
def removeTree (fs : Filesystem) (path : Bytes) : Except Errno Filesystem :=
  (fs.occupied path).map fun (spot, _) => fs.dropEntry spot.directory spot.name

/-- Whether a directory is `top` or lies below it, looking up through so many parents. -/
def isBelow (fs : Filesystem) (top : Inode) : Nat → Inode → Bool
  | 0, i => i == top
  | fuel + 1, i =>
    i == top ||
      match fs.node? i with
      | some (.directory parent _) => parent != i && isBelow fs top fuel parent
      | _ => false

/-- Moves a name to another spot, over what stands there.  A directory moves over an empty
directory only and never below itself, anything else over no directory; two names of one inode stay
as they are. -/
def rename (fs : Filesystem) (old new : Bytes) : Except Errno Filesystem :=
  match fs.occupied old, fs.spot new .busy with
  | .error e, _ | _, .error e => .error e
  | .ok (source, i), .ok target =>
    let moved (fs : Filesystem) : Filesystem :=
      let fs := (fs.dropEntry source.directory source.name).addEntry target.directory target.name i
      match fs.node? i with
      | some (.directory _ entries) => fs.setNode i (.directory target.directory entries)
      | _ => fs
    match fs.directoryEntries? i, fs.at? target with
    | none, none => if target.asDirectory then .error .notDirectory else .ok (moved fs)
    | none, some j =>
      if target.asDirectory then .error .notDirectory
      else if i = j then .ok fs
      else if (fs.directoryEntries? j).isSome then .error .isDirectory
      else .ok (moved (fs.dropEntry target.directory target.name))
    | some _, there =>
      if fs.isBelow i fs.nodes.size target.directory then .error .invalid
      else match there with
        | none => .ok (moved fs)
        | some j =>
          if i = j then .ok fs
          else match fs.directoryEntries? j with
            | none => .error .notDirectory
            | some (_ :: _) => .error .notEmpty
            | some [] => .ok (moved (fs.dropEntry target.directory target.name))

end ContainerEntry.Filesystem
