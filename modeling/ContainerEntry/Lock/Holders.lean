import ContainerEntry.Lock.Acquire

/-!
# Holders of locks

What happens on one container's directory: holders take locks under names of their own, let them
go, or keep them until their process dies, while others create, move and remove files there.  A
lock that is kept until death has no name any more, so nothing but the end of the history frees it.

Taking a lock under a name that already holds one takes the new lock first and lets the old one go
afterwards, so the two conflict if their levels do.
-/

namespace ContainerEntry.Lock

/-- A lock that somebody holds. -/
structure Held where
  /-- The level it was taken at. -/
  level : Level
  /-- The inodes it locks. -/
  inodes : List Inode
  deriving DecidableEq, Repr

/-- One event on a container's directory. -/
inductive Event where
  /-- A holder takes a lock. -/
  | acquire (level : Level) (holder : Bytes) (wait : Bool)
  /-- A holder lets its lock go. -/
  | release (holder : Bytes)
  /-- A holder keeps its lock until its process dies. -/
  | hold (holder : Bytes)
  /-- A lock is taken and kept until the process dies. -/
  | untilDeath (level : Level) (wait : Bool)
  /-- A name is removed. -/
  | remove (name : Bytes)
  /-- A name is moved. -/
  | rename (old new : Bytes)
  /-- A directory is made. -/
  | makeDirectory (name : Bytes)
  /-- A symbolic link is made. -/
  | makeSymlink (target name : Bytes)
  /-- A file gets a second name. -/
  | makeLink (old new : Bytes)
  /-- The directory is removed with everything in it. -/
  | removeTree
  deriving DecidableEq, Repr

/-- What an event came to. -/
inductive Reply where
  /-- A lock was taken, and locks so many inodes. -/
  | acquired (level : Level) (count : Nat)
  /-- The event happened. -/
  | done
  /-- A change to the files was refused. -/
  | refused
  /-- No lock has this name. -/
  | noSuchHolder
  /-- The lock was not taken. -/
  | failed (failure : Failure)
  /-- The lock is somebody else's, and the caller waits. -/
  | waiting
  deriving DecidableEq, Repr

/-- Everybody who holds a lock on one container. -/
structure Holders where
  /-- The files and the locked inodes. -/
  space : Space
  /-- The locks that can still be let go, by name. -/
  live : List (Bytes × Held)
  /-- The locks that last until death. -/
  untilDeath : List Held
  deriving Repr

namespace Holders

/-- Nobody holds a lock. -/
def start (files : Filesystem) : Holders := ⟨⟨files, []⟩, [], []⟩

/-- The holders without a named lock, which is freed. -/
def letGo (h : Holders) (holder : Bytes) : Holders :=
  match h.live.lookup holder with
  | none => h
  | some held =>
    { h with
      space := h.space.free held.inodes
      live := h.live.filter (·.1 != holder) }

/-- The holders after a change to the files. -/
def change (h : Holders) (result : Except Errno Filesystem) : Reply × Holders :=
  match result with
  | .error _ => (.refused, h)
  | .ok files => (.done, { h with space := { h.space with files := files } })

/-- The holders after an event on the container's directory. -/
def step (directory : Bytes) (h : Holders) : Event → Reply × Holders
  | .acquire level holder wait =>
    match acquire h.space directory level wait with
    | (.failed failure, space) => (.failed failure, { h with space := space })
    | (.waiting _ _ _, space) => (.waiting, { h with space := space })
    | (.acquired inodes, space) =>
      let h := { h with space := space }.letGo holder
      (.acquired level inodes.length, { h with live := (holder, ⟨level, inodes⟩) :: h.live })
  | .release holder =>
    match h.live.lookup holder with
    | none => (.noSuchHolder, h)
    | some _ => (.done, h.letGo holder)
  | .hold holder =>
    match h.live.lookup holder with
    | none => (.noSuchHolder, h)
    | some held =>
      (.done,
        { h with
          live := h.live.filter (·.1 != holder)
          untilDeath := held :: h.untilDeath })
  | .untilDeath level wait =>
    match acquire h.space directory level wait with
    | (.failed failure, space) => (.failed failure, { h with space := space })
    | (.waiting _ _ _, space) => (.waiting, { h with space := space })
    | (.acquired inodes, space) =>
      (.done, { h with space := space, untilDeath := ⟨level, inodes⟩ :: h.untilDeath })
  | .remove name => h.change (h.space.files.remove (Path.join directory name))
  | .rename old new =>
    h.change (h.space.files.rename (Path.join directory old) (Path.join directory new))
  | .makeDirectory name => h.change (h.space.files.makeDirectory (Path.join directory name))
  | .makeSymlink target name =>
    h.change (h.space.files.makeSymlink target (Path.join directory name))
  | .makeLink old new =>
    h.change (h.space.files.makeLink (Path.join directory old) (Path.join directory new))
  | .removeTree => h.change (h.space.files.removeTree directory)

end Holders

end ContainerEntry.Lock
