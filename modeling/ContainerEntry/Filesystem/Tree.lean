import ContainerEntry.Errno
import ContainerEntry.Path

/-!
# The tree of files

A file system is a growing array of nodes.  A node's index is its inode: names can be removed, but
a node stays, since whoever holds the inode still sees it.  Names live in directories only, and one
inode can have several.

`resolve` walks a path: through directories, through at most forty symbolic links (each link's
target takes the place of its name), up to the place that the last name denotes, which may be
vacant.  Everything a program does with paths is a question about the place.  The walk recurses on
the number of links left and, below that, on the names left.

Every program here runs with all privileges, so no walk asks for permission.
-/

namespace ContainerEntry

open Bytes

/-- The index of a node. -/
abbrev Inode := Nat

/-- What an inode stands for. -/
inductive Node where
  /-- A regular file with its content and permissions. -/
  | file (content : Bytes) (mode : Nat)
  /-- A directory with its parent and the inodes of its names. -/
  | directory (parent : Inode) (entries : List (Bytes × Inode))
  /-- A symbolic link. -/
  | symlink (target : Bytes)
  /-- A socket. -/
  | socket
  /-- The device that reads as empty. -/
  | nullDevice
  /-- A terminal. -/
  | terminal
  deriving DecidableEq, Repr

/-- A tree of files, with the directory that relative paths start from. -/
structure Filesystem where
  /-- The nodes, by inode. -/
  nodes : Array Node
  /-- The working directory. -/
  here : Inode
  deriving Repr

namespace Filesystem

/-- The inode of the root directory. -/
abbrev root : Inode := 0

/-- A tree with nothing in its root. -/
def empty : Filesystem := ⟨#[.directory root []], root⟩

/-- The node of an inode. -/
def node? (fs : Filesystem) (i : Inode) : Option Node := fs.nodes[i]?

/-- The place that a path denotes. -/
inductive Place where
  /-- An inode; `asDirectory` tells that the path asks for a directory. -/
  | found (inode : Inode) (asDirectory : Bool)
  /-- A name that its directory does not hold. -/
  | vacant (directory : Inode) (name : Bytes) (asDirectory : Bool)
  deriving DecidableEq, Repr

/-- The names on a path.  An empty name at the end stands for a slash there. -/
def pieces (path : Bytes) : List Bytes :=
  let names := (fields slash path).filter (· != [])
  if names.isEmpty || !Path.endsInSlash path then names else names ++ [[]]

/-- Where a path starts. -/
def start (fs : Filesystem) (path : Bytes) (directory : Inode) : Inode :=
  if Path.isAbsolute path then root else
    match fs.node? directory with
    | some _ => directory
    | none => root

/-- The longest name of a directory entry. -/
def maxName : Nat := 255

/-- Paths are shorter than this. -/
def maxPath : Nat := 4096

/-- How many symbolic links a walk may follow. -/
def maxLinks : Nat := 40

/-- What a walk does at the last name of its path. -/
inductive LastName where
  /-- A link there is itself the place. -/
  | itself
  /-- A link there is followed. -/
  | followed
  /-- A link there is followed, but no slash may stand behind the name: it asks for a directory
  where a file is wanted. -/
  | wantedFile
  deriving DecidableEq, Repr

/-- One walk between two links: through the names, until they end or a link is met that `onLink`
takes over with the directory it stands in, its target and the names behind it. -/
def walkNames (fs : Filesystem) (last : LastName)
    (onLink : Inode → Bytes → List Bytes → Except Errno Place) :
    Inode → List Bytes → Except Errno Place
  | here, [] => .ok (.found here false)
  | here, name :: rest =>
    if name.isEmpty && rest.isEmpty then .ok (.found here true)
    else match fs.node? here with
    | some (.directory parent entries) =>
      if name.isEmpty || name = [dot] then walkNames fs last onLink here rest
      else if name = [dot, dot] then walkNames fs last onLink parent rest
      else if last = .wantedFile && !rest.isEmpty && rest.all List.isEmpty then
        .error .isDirectory
      else if maxName < name.length then .error .nameTooLong
      else match entries.lookup name with
        | none =>
          if rest.all List.isEmpty then .ok (.vacant here name !rest.isEmpty)
          else .error .noEntry
        | some inode =>
          match fs.node? inode with
          | some (.symlink target) =>
            if rest.isEmpty && last = .itself then .ok (.found inode false)
            else onLink here target rest
          | _ => walkNames fs last onLink inode rest
    | _ => .error .notDirectory

/-- A walk that may still follow so many links. -/
def walk (fs : Filesystem) (last : LastName) : Nat → Inode → List Bytes → Except Errno Place
  | 0, here, names => walkNames fs last (fun _ _ _ => .error .tooManyLinks) here names
  | links + 1, here, names =>
    walkNames fs last
      (fun directory target rest =>
        walk fs last links (fs.start target directory) (pieces target ++ rest))
      here names

/-- The place of a path. -/
def resolve (fs : Filesystem) (path : Bytes) (last : LastName) : Except Errno Place :=
  if path.isEmpty then .error .noEntry
  else if maxPath ≤ path.length then .error .nameTooLong
  else fs.walk last maxLinks (fs.start path fs.here) (pieces path)

/-- The inode of something that exists; `follow` tells whether a link at the end is followed. -/
def existing (fs : Filesystem) (path : Bytes) (follow : Bool) : Except Errno Inode :=
  match fs.resolve path (if follow then .followed else .itself) with
  | .error e => .error e
  | .ok (.vacant _ _ _) => .error .noEntry
  | .ok (.found inode asDirectory) =>
    match asDirectory, fs.node? inode with
    | true, some (.directory _ _) => .ok inode
    | true, _ => .error .notDirectory
    | false, _ => .ok inode

/-- A path as the system takes it: it holds no NUL. -/
def checked (path : Bytes) : Except Fault Bytes :=
  if path.contains nul then .error .nulInPath else .ok path

/-- The inode that a path leads to. -/
def inode (fs : Filesystem) (path : Bytes) : Except Fault Inode :=
  match checked path with
  | .error fault => .error fault
  | .ok path => (fs.existing path true).mapError .os

/-- The name under which a directory holds an inode. -/
def nameIn (fs : Filesystem) (directory i : Inode) : Option Bytes :=
  match fs.node? directory with
  | some (.directory _ entries) => (entries.find? fun e => e.2 == i).map (·.1)
  | _ => none

/-- The names that lead from the root to a directory, looking up through so many parents. -/
def namesTo (fs : Filesystem) : Nat → Inode → Option (List Bytes)
  | 0, i => if i = root then some [] else none
  | fuel + 1, i =>
    if i = root then some []
    else match fs.node? i with
      | some (.directory parent _) => do
        let above ← namesTo fs fuel parent
        let name ← fs.nameIn parent i
        return above ++ [name]
      | _ => none

/-- The path of the working directory, while it still has one. -/
def currentPath? (fs : Filesystem) : Option Bytes :=
  (fs.namesTo fs.nodes.size fs.here).map fun names => slash :: joinWith [slash] names

/-- Whether a path leads to a directory. -/
def isDirectory (fs : Filesystem) (path : Bytes) : Except Fault Bool :=
  (fs.inode path).map fun i =>
    match fs.node? i with
    | some (.directory _ _) => true
    | _ => false

/-- The content of a file. -/
def readFile (fs : Filesystem) (path : Bytes) : Except Fault Bytes :=
  match fs.inode path with
  | .error fault => .error fault
  | .ok i =>
    match fs.node? i with
    | some (.file content _) => .ok content
    | some .nullDevice => .ok []
    | some (.directory _ _) => .error (.os .isDirectory)
    | _ => .error (.os .noSuchDevice)

/-- The names in a directory. -/
def readDirectory (fs : Filesystem) (path : Bytes) : Except Fault (List Bytes) :=
  match fs.inode path with
  | .error fault => .error fault
  | .ok i =>
    match fs.node? i with
    | some (.directory _ entries) => .ok (entries.map (·.1))
    | _ => .error (.os .notDirectory)

end Filesystem

end ContainerEntry
