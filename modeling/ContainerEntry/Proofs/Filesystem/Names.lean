import Mathlib
import ContainerEntry.Filesystem.Change
import ContainerEntry.Proofs.Basic
import ContainerEntry.Proofs.Filesystem.Growth

/-!
# The names in directories

A directory has each of its names once, and it gives them in whatever order it likes.

* **Names stay distinct** (`HasDistinctNames.of_changes`): no directory gets a name twice by any
  change to the tree, so every tree that changes make from an empty one has distinct names
  (`hasDistinctNames_of_reflTransGen`).
* **The order does not count** (`SameButOrder.inode_eq`, `SameButOrder.readFile_eq`): two trees
  that differ in the order of the names in their directories give every path the same inode, every
  file the same content and every refusal the same reason.  Only reading a directory shows the
  difference, and it shows nothing else (`SameButOrder.readDirectory_perm`).
-/

namespace ContainerEntry

/-- The names in a node, if it is a directory. -/
def Node.names : Node → List Bytes
  | .directory _ entries => entries.map (·.1)
  | .file _ _ | .symlink _ | .socket | .nullDevice | .terminal => []

namespace Filesystem

open Bytes

/-! ### Distinct names -/

/-- No directory has a name twice. -/
def HasDistinctNames (fs : Filesystem) : Prop := ∀ node ∈ fs.nodes.toList, node.names.Nodup

instance (fs : Filesystem) : Decidable fs.HasDistinctNames :=
  inferInstanceAs (Decidable (∀ node ∈ fs.nodes.toList, node.names.Nodup))

/-- An inode is not that of a directory with the name. -/
def Lacks (fs : Filesystem) (directory : Inode) (name : Bytes) : Prop :=
  ∀ parent entries, fs.node? directory = some (.directory parent entries) →
    name ∉ entries.map (·.1)

variable {fs : Filesystem} {i directory : Inode} {node : Node} {name : Bytes}

/-- The names of a directory are distinct. -/
lemma HasDistinctNames.nodup (h : fs.HasDistinctNames) {parent : Inode}
    {entries : List (Bytes × Inode)} (hi : fs.node? i = some (.directory parent entries)) :
    (entries.map (·.1)).Nodup :=
  h (.directory parent entries) (Array.mem_toList_iff.2 (Array.mem_of_getElem? hi))

/-- A name is not found among entries if and only if it is none of their names. -/
lemma lookup_eq_none_iff {entries : List (Bytes × Inode)} :
    entries.lookup name = none ↔ name ∉ entries.map (·.1) := by
  rw [List.lookup_eq_none_iff]
  constructor
  · intro h hmem
    obtain ⟨e, he, rfl⟩ := List.mem_map.1 hmem
    simpa using h e he
  · intro h e he
    have hne : name ≠ e.1 := fun heq => h (heq ▸ List.mem_map_of_mem he)
    simpa using hne

/-- Nothing stands at a spot if and only if its directory lacks its name. -/
lemma at?_eq_none_iff {spot : Spot} : fs.at? spot = none ↔ fs.Lacks spot.directory spot.name := by
  unfold at?
  split
  · next parent entries hdir =>
    rw [lookup_eq_none_iff]
    constructor
    · intro h parent' entries' hdir'
      cases hdir.symm.trans hdir'
      exact h
    · intro h
      exact h parent entries hdir
  · next hnot => exact iff_of_true rfl fun parent entries hdir => absurd hdir (hnot parent entries)

/-- A tree without names has distinct ones. -/
lemma hasDistinctNames_empty : empty.HasDistinctNames := by decide

/-- Setting a node keeps the names distinct, if those of the node are. -/
lemma HasDistinctNames.setNode (h : fs.HasDistinctNames) (hnode : node.names.Nodup) :
    (fs.setNode i node).HasDistinctNames := by
  intro other hother
  rw [Filesystem.setNode, Array.set!_eq_setIfInBounds, Array.toList_setIfInBounds] at hother
  rcases List.mem_or_eq_of_mem_set hother with hmem | rfl
  · exact h other hmem
  · exact hnode

/-- Changing the entries of a directory keeps the names distinct, if it does so there. -/
lemma HasDistinctNames.editEntries (h : fs.HasDistinctNames)
    {edit : List (Bytes × Inode) → List (Bytes × Inode)}
    (hedit : ∀ parent entries, fs.node? directory = some (.directory parent entries) →
      ((edit entries).map (·.1)).Nodup) : (fs.editEntries directory edit).HasDistinctNames := by
  unfold Filesystem.editEntries
  split
  · next parent entries hdir => exact h.setNode (hedit parent entries hdir)
  · exact h

/-- Taking a name away keeps the names distinct. -/
lemma HasDistinctNames.dropEntry (h : fs.HasDistinctNames) (directory : Inode) (name : Bytes) :
    (fs.dropEntry directory name).HasDistinctNames := by
  apply h.editEntries
  intro parent entries hdir
  exact (h.nodup hdir).sublist (List.filter_sublist.map _)

/-- Adding a name that the directory lacks keeps the names distinct. -/
lemma HasDistinctNames.addEntry (h : fs.HasDistinctNames) (hlacks : fs.Lacks directory name) :
    (fs.addEntry directory name i).HasDistinctNames := by
  apply h.editEntries
  intro parent entries hdir
  rw [List.map_append, List.nodup_append]
  refine ⟨h.nodup hdir, List.nodup_singleton name, ?_⟩
  rintro a ha b hb rfl
  rw [List.map_singleton, List.mem_singleton] at hb
  subst hb
  exact hlacks parent entries hdir ha

/-- Putting a node without names under a name that the directory lacks keeps the names distinct. -/
lemma HasDistinctNames.place (h : fs.HasDistinctNames) (hlacks : fs.Lacks directory name)
    (hnode : node.names = []) : (fs.place directory name node).2.HasDistinctNames := by
  have hpushed : HasDistinctNames { fs with nodes := fs.nodes.push node } := by
    intro other hother
    rw [Array.toList_push, List.mem_append, List.mem_singleton] at hother
    rcases hother with hmem | rfl
    · exact h other hmem
    · rw [hnode]
      exact List.nodup_nil
  apply hpushed.addEntry
  intro parent entries hdir
  rw [node?, Array.getElem?_push] at hdir
  split_ifs at hdir
  · cases hdir
    show name ∉ (Node.directory parent entries).names
    rw [hnode]
    exact List.not_mem_nil
  · exact hlacks parent entries hdir

/-- Taking another name away does not add a name. -/
lemma Lacks.dropEntry (h : fs.Lacks directory name) (other : Inode) (dropped : Bytes) :
    (fs.dropEntry other dropped).Lacks directory name := by
  intro parent entries hdir
  unfold Filesystem.dropEntry Filesystem.editEntries at hdir
  split at hdir
  · next parent' entries' hother =>
    rw [setNode, node?, Array.set!_eq_setIfInBounds, Array.getElem?_setIfInBounds] at hdir
    split_ifs at hdir with heq hlt
    · subst heq
      cases hdir
      intro hmem
      exact h parent entries' hother ((List.filter_sublist.map _).subset hmem)
    · exact h parent entries hdir
  · exact h parent entries hdir

/-- A name that was taken away is not there. -/
lemma lacks_dropEntry : (fs.dropEntry directory name).Lacks directory name := by
  intro parent entries hdir
  unfold Filesystem.dropEntry Filesystem.editEntries at hdir
  split at hdir
  · next parent' entries' hother =>
    obtain ⟨hlt, -⟩ := Array.getElem?_eq_some_iff.1 hother
    rw [setNode, node?, Array.set!_eq_setIfInBounds, Array.getElem?_setIfInBounds] at hdir
    rw [if_pos rfl, if_pos hlt] at hdir
    cases hdir
    simp
  · next hnot => exact absurd hdir (hnot parent entries)

/-! ### Changes -/

/-- One tree comes from another by a change. -/
inductive Changes (fs : Filesystem) : Filesystem → Prop where
  /-- A file is opened that may be missing. -/
  | openOrCreate {path mode i new} (h : fs.openOrCreate path mode = .ok (i, new)) : Changes fs new
  /-- A file is written. -/
  | writeFile {path content mode new} (h : fs.writeFile path content mode = .ok new) :
    Changes fs new
  /-- A directory is made. -/
  | makeDirectory {path new} (h : fs.makeDirectory path = .ok new) : Changes fs new
  /-- Something is made that is no directory. -/
  | make {node path i new} (hnode : node.names = []) (h : fs.make node path = .ok (i, new)) :
    Changes fs new
  /-- A link is made. -/
  | makeSymlink {target path new} (h : fs.makeSymlink target path = .ok new) : Changes fs new
  /-- A file gets a second name. -/
  | makeLink {path other new} (h : fs.makeLink path other = .ok new) : Changes fs new
  /-- A name is taken away. -/
  | remove {path new} (h : fs.remove path = .ok new) : Changes fs new
  /-- A directory is taken away with everything in it. -/
  | removeTree {path new} (h : fs.removeTree path = .ok new) : Changes fs new
  /-- A name is moved. -/
  | rename {old other new} (h : fs.rename old other = .ok new) : Changes fs new

variable {new : Filesystem} {path : Bytes} {spot : Spot}

/-- A vacant spot is one that nothing stands at. -/
lemma lacks_of_vacantSpot (h : fs.vacantSpot path = .ok spot) :
    fs.Lacks spot.directory spot.name := by
  unfold vacantSpot at h
  split at h
  · cases h
  split_ifs at h with hsome
  cases h
  exact at?_eq_none_iff.1 (Option.not_isSome_iff_eq_none.1 hsome)

/-- A vacancy is a vacant spot. -/
lemma lacks_of_vacancy (h : fs.vacancy path = .ok spot) : fs.Lacks spot.directory spot.name := by
  unfold vacancy at h
  split at h
  · cases h
  next hspot =>
  split_ifs at h
  cases h
  exact lacks_of_vacantSpot hspot

/-- Opening a file keeps the names distinct, also when it creates the file. -/
lemma HasDistinctNames.openOrCreate (hfs : fs.HasDistinctNames) {mode : Nat}
    (h : fs.openOrCreate path mode = .ok (i, new)) : new.HasDistinctNames := by
  obtain ⟨-, ⟨-, -, rfl⟩ | ⟨directory, name, hr, hplace⟩⟩ := openOrCreate_eq_ok_iff.1 h
  · exact hfs
  · obtain ⟨-, -, hwalk⟩ := resolve_eq_ok_iff.1 hr
    obtain ⟨parent, entries, hdir, hnone⟩ := hwalk.vacant_inv
    rw [show new = (fs.place directory name (.file [] mode)).2 from congrArg Prod.snd hplace]
    refine hfs.place (fun parent' entries' hdir' => ?_) rfl
    cases hdir.symm.trans hdir'
    exact lookup_eq_none_iff.1 hnone

/-- Making what has no names keeps the names distinct. -/
lemma HasDistinctNames.make (hfs : fs.HasDistinctNames) (hnode : node.names = [])
    (h : fs.make node path = .ok (i, new)) : new.HasDistinctNames := by
  obtain ⟨spot, hspot, hplace⟩ := exists_of_map_eq_ok h
  rw [show new = (fs.place spot.directory spot.name node).2 from (congrArg Prod.snd hplace).symm]
  exact hfs.place (lacks_of_vacancy hspot) hnode

/-- Putting an inode under another name, and setting the parent that it then has, keeps the names
distinct. -/
lemma HasDistinctNames.relocate (hfs : fs.HasDistinctNames) (i : Inode) (source target : Spot)
    (hlacks : fs.Lacks target.directory target.name) :
    HasDistinctNames
      (let fs := (fs.dropEntry source.directory source.name).addEntry target.directory target.name i
      match fs.node? i with
      | some (.directory _ entries) => fs.setNode i (.directory target.directory entries)
      | _ => fs) := by
  have hadded : HasDistinctNames ((fs.dropEntry source.directory source.name).addEntry
      target.directory target.name i) :=
    (hfs.dropEntry source.directory source.name).addEntry
      (hlacks.dropEntry source.directory source.name)
  dsimp only
  split
  · next parent entries hi => exact hadded.setNode (hadded.nodup hi)
  · exact hadded

/-- Moving a name keeps the names distinct. -/
lemma HasDistinctNames.rename (hfs : fs.HasDistinctNames) {old other : Bytes}
    (h : fs.rename old other = .ok new) : new.HasDistinctNames := by
  unfold Filesystem.rename at h
  split at h
  · cases h
  · cases h
  next source i target _ _ =>
  -- A name is moved to a spot at which nothing stands, or nothing stands any more.
  have hmoved := hfs.relocate i source target
  have hreplaced := (hfs.dropEntry target.directory target.name).relocate i source target
    lacks_dropEntry
  dsimp only at h
  split at h
  · next hnone =>
    split_ifs at h
    cases h
    exact hmoved (at?_eq_none_iff.1 hnone)
  · split_ifs at h
    · cases h
      exact hfs
    · cases h
      exact hreplaced
  · split_ifs at h
    split at h
    · next hnone =>
      cases h
      exact hmoved (at?_eq_none_iff.1 hnone)
    · split_ifs at h
      · cases h
        exact hfs
      · split at h
        · cases h
        · cases h
        · cases h
          exact hreplaced

/-- **Every change keeps the names distinct.** -/
theorem HasDistinctNames.of_changes (hfs : fs.HasDistinctNames) (h : fs.Changes new) :
    new.HasDistinctNames := by
  cases h with
  | openOrCreate h => exact hfs.openOrCreate h
  | writeFile h =>
    obtain ⟨⟨i, opened⟩, hopen, rfl⟩ := exists_of_map_eq_ok h
    have hopened := hfs.openOrCreate hopen
    dsimp only
    split
    · exact hopened.setNode List.nodup_nil
    · exact hopened
  | makeDirectory h =>
    obtain ⟨spot, hspot, rfl⟩ := exists_of_map_eq_ok h
    exact hfs.place (lacks_of_vacantSpot hspot) rfl
  | make hnode h => exact hfs.make hnode h
  | makeSymlink h =>
    unfold Filesystem.makeSymlink at h
    split_ifs at h
    obtain ⟨⟨i, made⟩, hmake, rfl⟩ := exists_of_map_eq_ok h
    exact hfs.make rfl hmake
  | makeLink h =>
    unfold Filesystem.makeLink at h
    split at h
    · cases h
    · cases h
    next i spot _ hspot =>
    split at h
    · cases h
    · cases h
      exact hfs.addEntry (lacks_of_vacancy hspot)
  | remove h =>
    unfold Filesystem.remove at h
    split at h
    · cases h
    split at h
    · cases h
    · cases h
      exact hfs.dropEntry _ _
  | removeTree h =>
    obtain ⟨⟨spot, i⟩, -, rfl⟩ := exists_of_map_eq_ok h
    exact hfs.dropEntry _ _
  | rename h => exact hfs.rename h

/-- **Every tree that changes make from an empty one has distinct names.** -/
theorem hasDistinctNames_of_reflTransGen (h : Relation.ReflTransGen Changes empty fs) :
    fs.HasDistinctNames := by
  induction h with
  | refl => exact hasDistinctNames_empty
  | tail _ hchange ih => exact ih.of_changes hchange

/-! ### The order of names -/

/-- The order of entries of different names does not count. -/
lemma lookup_eq_of_perm {entries entries' : List (Bytes × Inode)}
    (hnodup : (entries.map (·.1)).Nodup) (hperm : entries.Perm entries') :
    entries'.lookup name = entries.lookup name := by
  have hnodup' := (hperm.map (·.1)).nodup_iff.1 hnodup
  ext i
  rw [lookup_eq_some_iff hnodup, lookup_eq_some_iff hnodup', hperm.mem_iff]

/-- Two trees that differ at most in the order of the names in their directories. -/
structure SameButOrder (fs fs' : Filesystem) : Prop where
  /-- Relative paths start at the same directory. -/
  here_eq : fs'.here = fs.here
  /-- A directory has the same parent and the same entries. -/
  directory {i parent : Inode} {entries : List (Bytes × Inode)}
    (hi : fs.node? i = some (.directory parent entries)) :
    ∃ entries', fs'.node? i = some (.directory parent entries') ∧ entries.Perm entries'
  /-- Everything else is the same. -/
  other {i : Inode} (hi : ∀ parent entries, fs.node? i ≠ some (.directory parent entries)) :
    fs'.node? i = fs.node? i

namespace SameButOrder

variable {fs' : Filesystem} (h : fs.SameButOrder fs')

include h

/-- An inode is that of a directory in both trees, with the same entries in some order, or it stands
for the same in both. -/
lemma node?_cases (i : Inode) :
    (∃ parent entries entries', fs.node? i = some (.directory parent entries) ∧
      fs'.node? i = some (.directory parent entries') ∧ entries.Perm entries') ∨
    fs'.node? i = fs.node? i ∧ ∀ parent entries, fs.node? i ≠ some (.directory parent entries) := by
  by_cases hdir : ∃ parent entries, fs.node? i = some (.directory parent entries)
  · obtain ⟨parent, entries, hi⟩ := hdir
    obtain ⟨entries', hi', hperm⟩ := h.directory hi
    exact .inl ⟨parent, entries, entries', hi, hi', hperm⟩
  · have hnot (parent entries) : fs.node? i ≠ some (.directory parent entries) :=
      fun heq => hdir ⟨parent, entries, heq⟩
    exact .inr ⟨h.other hnot, hnot⟩

/-- A path starts at the same directory. -/
lemma start_eq (path : Bytes) (directory : Inode) :
    fs'.start path directory = fs.start path directory := by
  unfold start
  obtain ⟨parent, entries, entries', hdir, hdir', -⟩ | ⟨heq, -⟩ := h.node?_cases directory
  · rw [hdir, hdir']
  · rw [heq]

/-- A walk between two links comes to the same place or the same refusal. -/
lemma walkNames_eq (hfs : fs.HasDistinctNames) {last : LastName}
    {onLink : Inode → Bytes → List Bytes → Except Errno Place} (names : List Bytes) :
    ∀ here : Inode, fs'.walkNames last onLink here names = fs.walkNames last onLink here names := by
  induction names with
  | nil => intro here; rfl
  | cons name rest ih =>
    intro here
    rw [walkNames, walkNames]
    obtain ⟨parent, entries, entries', hdir, hdir', hperm⟩ | ⟨heq, hnot⟩ := h.node?_cases here
    · simp only [hdir, hdir', ih, lookup_eq_of_perm (hfs.nodup hdir) hperm]
      -- the name may be that of a directory, whose own entries may be in another order
      cases entries.lookup name with
      | none => rfl
      | some i =>
        obtain ⟨_, _, _, hi, hi', -⟩ | ⟨hi, -⟩ := h.node?_cases i
        · simp only [hi, hi']
        · simp only [hi]
    · rw [heq]
      split
      · rfl
      · split
        · next hdir => exact absurd hdir (hnot _ _)
        · rfl

/-- A walk comes to the same place or the same refusal. -/
lemma walk_eq (hfs : fs.HasDistinctNames) {last : LastName} (links : Nat) (here : Inode)
    (names : List Bytes) : fs'.walk last links here names = fs.walk last links here names := by
  induction links generalizing here names with
  | zero => exact h.walkNames_eq hfs names here
  | succ links ih =>
    rw [walk, walk, ← h.walkNames_eq hfs]
    simp only [h.start_eq, ih]

/-- Something that exists is the same inode, or is refused for the same reason. -/
lemma existing_eq (hfs : fs.HasDistinctNames) (path : Bytes) (follow : Bool) :
    fs'.existing path follow = fs.existing path follow := by
  unfold existing resolve
  rw [h.here_eq, h.start_eq, h.walk_eq hfs]
  split
  · rfl
  · rfl
  · next i asDirectory _ =>
    obtain ⟨_, _, _, hi, hi', -⟩ | ⟨hi, -⟩ := h.node?_cases i
    · simp only [hi, hi']
      cases asDirectory <;> rfl
    · rw [hi]

/-- **A path leads to the same inode, or is refused for the same reason.** -/
theorem inode_eq (hfs : fs.HasDistinctNames) (path : Bytes) : fs'.inode path = fs.inode path := by
  unfold inode
  simp only [h.existing_eq hfs]

/-- Whether a path leads to a directory is the same. -/
lemma isDirectory_eq (hfs : fs.HasDistinctNames) (path : Bytes) :
    fs'.isDirectory path = fs.isDirectory path := by
  unfold isDirectory
  rw [h.inode_eq hfs]
  congr 1
  funext i
  obtain ⟨_, _, _, hi, hi', -⟩ | ⟨hi, -⟩ := h.node?_cases i
  · rw [hi, hi']
  · rw [hi]

/-- **A file has the same content.** -/
theorem readFile_eq (hfs : fs.HasDistinctNames) (path : Bytes) :
    fs'.readFile path = fs.readFile path := by
  unfold readFile
  rw [h.inode_eq hfs]
  split
  · rfl
  next i _ =>
  obtain ⟨_, _, _, hi, hi', -⟩ | ⟨hi, -⟩ := h.node?_cases i
  · rw [hi, hi']
  · rw [hi]

/-- **A directory gives the same names in some order.** -/
theorem readDirectory_perm (hfs : fs.HasDistinctNames) {path : Bytes} {names : List Bytes}
    (hnames : fs.readDirectory path = .ok names) :
    ∃ names', fs'.readDirectory path = .ok names' ∧ names.Perm names' := by
  unfold readDirectory at hnames ⊢
  rw [h.inode_eq hfs]
  split at hnames
  · cases hnames
  next i _ =>
  split at hnames
  · next parent entries hi =>
    cases hnames
    obtain ⟨entries', hi', hperm⟩ := h.directory hi
    exact ⟨entries'.map (·.1), by rw [hi'], hperm.map _⟩
  · cases hnames

/-- What cannot be read as a directory is refused for the same reason. -/
lemma readDirectory_eq_error (hfs : fs.HasDistinctNames) {path : Bytes} {fault : Fault}
    (herror : fs.readDirectory path = .error fault) : fs'.readDirectory path = .error fault := by
  unfold readDirectory at herror ⊢
  rw [h.inode_eq hfs]
  split at herror
  · exact herror
  next i _ =>
  split at herror
  · cases herror
  · next hi =>
    rw [h.other hi]
    split
    · next hdir => exact absurd hdir (hi _ _)
    · exact herror

end SameButOrder

end Filesystem

end ContainerEntry
