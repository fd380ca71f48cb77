import ContainerEntry.Path

/-!
# Lock levels

A container's directory carries one lock file for each of the levels `run`, `exports` and `config`.
The full lock is a lock on the directory itself and then on each of the files, in ascending order;
one order for everybody is what keeps waiting holders from waiting for each other.
-/

namespace ContainerEntry.Lock

/-- How much of a container a lock covers. -/
inductive Level where
  /-- The container runs. -/
  | run
  /-- The exports are rebuilt. -/
  | exports
  /-- The configuration is rewritten. -/
  | config
  /-- All of it. -/
  | full
  deriving DecidableEq, Repr

namespace Level

/-- The levels that a full lock covers, in the order in which it takes them. -/
def parts : List Level := [.run, .exports, .config]

/-- The position of a level in the order of acquisition. -/
def rank : Level → Nat
  | .run => 0
  | .exports => 1
  | .config => 2
  | .full => 3

/-- The order of acquisition. -/
def compare (a b : Level) : Ordering := Ord.compare a.rank b.rank

/-- The name of a level. -/
def name : Level → Bytes
  | .run => "run"
  | .exports => "exports"
  | .config => "config"
  | .full => "full"

/-- The level of a name. -/
def ofName? (text : Bytes) : Option Level :=
  [run, exports, config, full].find? fun level => level.name == text

/-- The lock file of a level that has one of its own. -/
def sentinel? : Level → Option Bytes
  | .run => some "run.lock"
  | .exports => some "exports.lock"
  | .config => some "config.lock"
  | .full => none

end Level

/-- Something to lock. -/
inductive Target where
  /-- A lock file, which is created when it is missing. -/
  | file (path : Bytes)
  /-- A directory. -/
  | directory (path : Bytes)
  deriving DecidableEq, Repr

namespace Target

/-- The path of a target. -/
def path : Target → Bytes
  | .file p => p
  | .directory p => p

/-- Whether a target is a directory. -/
def isDirectory : Target → Bool
  | .file _ => false
  | .directory _ => true

end Target

/-- What a lock of a level on a container's directory takes, in order. -/
def Level.targets (level : Level) (directory : Bytes) : List Target :=
  match level.sentinel? with
  | some name => [.file (Path.join directory name)]
  | none =>
    .directory directory ::
      (parts.filterMap sentinel?).map fun name => .file (Path.join directory name)

end ContainerEntry.Lock
