import ContainerEntry.Lock.Level
import ContainerEntry.Filesystem.Tree

/-!
# Waiting callers

Several callers lock the same container directory at once, each waiting where another one is ahead.
A caller takes its targets one by one in the order of its level, keeps what it has while it waits,
and lets everything go some time after it has the last one.  One turn is one of these steps, so
every interleaving of the callers is a list of turns.

The targets are given by their inodes, and what matters is only whether two of them are the same.
-/

namespace ContainerEntry.Lock

/-- A caller that takes a lock and waits where it has to. -/
structure Contender where
  /-- The inodes it has locked. -/
  held : List Inode
  /-- The inodes it still has to lock, in order. -/
  rest : List Inode
  /-- Whether it has let everything go. -/
  isDone : Bool
  deriving DecidableEq, Repr

namespace Contender

/-- A caller that is about to lock a directory at a level. -/
def start (directory : Bytes) (inodeOf : Target → Inode) (level : Level) : Contender :=
  ⟨[], (level.targets directory).map inodeOf, false⟩

end Contender

/-- Callers on one container. -/
structure Contention where
  /-- The callers. -/
  contenders : List Contender
  deriving DecidableEq, Repr

namespace Contention

/-- Callers that are about to lock a directory at their levels. -/
def start (directory : Bytes) (inodeOf : Target → Inode) (levels : List Level) : Contention :=
  ⟨levels.map (Contender.start directory inodeOf)⟩

/-- Whether some caller has locked an inode. -/
def isHeld (c : Contention) (i : Inode) : Bool := c.contenders.any fun k => k.held.contains i

/-- The callers after a turn of one of them, or `none` when it has to wait or is done. -/
def step? (c : Contention) (turn : Nat) : Option Contention :=
  match c.contenders[turn]? with
  | none => none
  | some k =>
    if k.isDone then none
    else match k.rest with
      | [] => some ⟨c.contenders.set turn ⟨[], [], true⟩⟩
      | i :: rest =>
        if c.isHeld i then none
        else some ⟨c.contenders.set turn ⟨k.held ++ [i], rest, false⟩⟩

/-- The callers after turns; one that cannot be taken changes nothing. -/
def run (c : Contention) (turns : List Nat) : Contention :=
  turns.foldl (fun c turn => (c.step? turn).getD c) c

/-- Whether every caller has let everything go. -/
def isOver (c : Contention) : Bool := c.contenders.all (·.isDone)

end Contention

end ContainerEntry.Lock
