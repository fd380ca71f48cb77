import ContainerEntry.Container.Basic
import ContainerEntry.Glob.Match

/-!
# Inventories

The containers of a user are the directories below the user's directory that open.  A name that
ends in `.stage` is a container still being made.  What does not open is left out, so a broken
container hides no other; but an entry that cannot be looked at makes the whole listing fail.

The containers are sorted by name, so the order in which a directory gives its names does not show.
-/

namespace ContainerEntry.Inventory

/-- The end of the name of a container that is still being made. -/
def stageSuffix : Bytes := ".stage"

/-- The containers among the entries of a user's directory, in the order of the entries. -/
def collect (files : Filesystem) (dataDir user : Bytes) :
    (entries : List Bytes) → Except Failure (List Container)
  | [] => .ok []
  | entry :: rest =>
    let name := Text.display entry
    if stageSuffix.isSuffixOf name then collect files dataDir user rest
    else match files.isDirectory (Path.join (Path.join dataDir user) entry) with
      | .error fault => .error (.io fault)
      | .ok false => collect files dataDir user rest
      | .ok true =>
        match Container.openNamed files dataDir user name with
        | .error _ => collect files dataDir user rest
        | .ok container =>
          (collect files dataDir user rest).map (container :: ·)

/-- The containers in the ascending order of their names. -/
def sorted (containers : List Container) : List Container :=
  containers.mergeSort fun a b => decide (a.name ≤ b.name)

/-- The containers of a user. -/
def list (files : Filesystem) (dataDir user : Bytes) : Except Failure (List Container) :=
  match files.readDirectory (Path.join dataDir user) with
  | .error fault => if fault.isNotFound then .ok [] else .error (.io fault)
  | .ok entries => (collect files dataDir user entries).map sorted

/-- Whether one of the patterns matches a name; the patterns behind the first that does are not
read. -/
def anyMatch (name : Bytes) : (patterns : List Bytes) → Except Failure Bool
  | [] => .ok false
  | pattern :: rest =>
    match Glob.isMatch? pattern name with
    | none => .error (.invalidPattern pattern)
    | some true => .ok true
    | some false => anyMatch name rest

/-- The containers whose names match one of the patterns. -/
def select (patterns : List Bytes) : List Container → Except Failure (List Container)
  | [] => .ok []
  | container :: rest =>
    match anyMatch container.name patterns with
    | .error failure => .error failure
    | .ok keep =>
      (select patterns rest).map fun kept => if keep then container :: kept else kept

/-- The containers whose names match one of the patterns; without patterns, all of them. -/
def filter (containers : List Container) (patterns : List Bytes) :
    Except Failure (List Container) :=
  if patterns.isEmpty then .ok containers else select patterns containers

/-- What a user is told about a container. -/
structure Info where
  /-- The container's name. -/
  name : Bytes
  /-- Whether the container runs an init system. -/
  boot : Bool
  /-- The container's leading process, while it runs. -/
  leader : Option Int
  deriving DecidableEq, Repr

/-- A flag in words. -/
def yesNo (flag : Bool) : Bytes := if flag then "yes" else "no"

/-- The lines that a user reads. -/
def Info.describe (info : Info) : Bytes :=
  let label (text : String) : Bytes := Bytes.padLeft 8 text
  let running : Bytes :=
    match info.leader with
    | some pid => "yes (leader " ++ Text.decimalInt pid ++ ")"
    | none => "no"
  label "Name:" ++ " " ++ info.name ++ "\n" ++ label "Booted:" ++ " " ++ yesNo info.boot ++ "\n" ++
    label "Running:" ++ " " ++ running ++ "\n"

end ContainerEntry.Inventory
