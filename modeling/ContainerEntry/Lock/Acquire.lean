import ContainerEntry.Failure
import ContainerEntry.Filesystem.Change
import ContainerEntry.Lock.Level

/-!
# Taking locks

A lock belongs to the inode that a path led to when it was opened, and every opening is an owner of
its own: two paths to one inode conflict, also within one acquisition, and a lock file that was
removed and created again is free.

An acquisition opens and locks its targets in order.  If one cannot be opened, or is locked and the
caller does not wait, the inodes locked so far are freed; the lock files created so far stay.  A
caller that waits keeps what it holds until the contended inode is free.
-/

namespace ContainerEntry.Lock

/-- The files, and the inodes that somebody has locked. -/
structure Space where
  /-- The tree of files. -/
  files : Filesystem
  /-- The locked inodes. -/
  locked : List Inode
  deriving Repr

/-- The permissions of a lock file that is created. -/
def sentinelMode : Nat := 0o600

namespace Space

/-- The space with an inode locked. -/
def lock (space : Space) (i : Inode) : Space := { space with locked := i :: space.locked }

/-- The space with inodes freed. -/
def free (space : Space) (held : List Inode) : Space :=
  { space with locked := held.foldl List.erase space.locked }

/-- Opens a target, creating a missing lock file. -/
def openTarget (space : Space) : Target → Except Fault (Inode × Space)
  | .directory path => (space.files.openExisting path).map fun i => (i, space)
  | .file path =>
    (space.files.openOrCreate path sentinelMode).map fun (i, files) =>
      (i, { space with files := files })

end Space

/-- How an acquisition stands. -/
inductive Outcome where
  /-- Every target is locked. -/
  | acquired (held : List Inode)
  /-- The acquisition was given up, and nothing is held. -/
  | failed (failure : Failure)
  /-- An inode is locked by somebody else; `held` is kept, and `rest` comes after it. -/
  | waiting (held : List Inode) (inode : Inode) (rest : List Target)
  deriving DecidableEq, Repr

/-- Locks targets in order, on top of the inodes already `held`. -/
def advance (wait : Bool) : Space → List Inode → List Target → Outcome × Space
  | space, held, [] => (.acquired held, space)
  | space, held, target :: rest =>
    match space.openTarget target with
    | .error fault =>
      (.failed (.lock target.path (fault.errno?.getD .ioError)), space.free held)
    | .ok (i, space) =>
      if space.locked.contains i then
        if wait then (.waiting held i rest, space)
        else (.failed (.lockUnavailable target.path), space.free held)
      else advance wait (space.lock i) (held ++ [i]) rest

/-- Takes a lock of a level on a container's directory. -/
def acquire (space : Space) (directory : Bytes) (level : Level) (wait : Bool) :
    Outcome × Space :=
  advance wait space [] (level.targets directory)

/-- Goes on with a waiting acquisition once its inode is free. -/
def resume (space : Space) : Outcome → Outcome × Space
  | .waiting held i rest =>
    if space.locked.contains i then (.waiting held i rest, space)
    else advance true (space.lock i) (held ++ [i]) rest
  | outcome => (outcome, space)

end ContainerEntry.Lock
