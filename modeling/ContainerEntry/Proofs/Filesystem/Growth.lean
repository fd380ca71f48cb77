import Mathlib
import ContainerEntry.Filesystem.Change
import ContainerEntry.Proofs.Filesystem.Walk

/-!
# What the creation of files leaves alone

The one change that an entry makes to the files itself is that opening a lock file creates it where
it is missing.  `placeFiles` is the tree after a list of such creations.  `Grows` is what every tree
that comes from another in this way has in common with it: whatever was there is as it was, but for
names of new inodes that directories gain, and new inodes are empty files.  Which names are gained,
`Grows` leaves open.

* **Creation is growth** (`openOrCreate_grows`): opening a file that may be missing grows the tree.
* **A file is placed where its name was vacant** (`openOrCreate_placeFiles`), and nowhere else.
* **Paths keep what they lead to** (`resolve_of_grows`): the inode that a path leads to stays the
  same however much the tree grows, although a link on the way may point to a file that has just
  come into being.  A name that is vacant afterwards was vacant before (`resolve_vacant_of_grows`).
* **An opening can be repeated** (`openOrCreate_of_grows`): once a path has been opened, opening it
  again gives the same inode and changes nothing, in every tree that the first one grows into.
  This holds also of a path that leads through a dangling link, where the first opening creates the
  file at the link's target.

A relative path starts at the working directory, so the statements ask that there is one
(`IsGrounded`).
-/

namespace ContainerEntry.Filesystem

open Bytes

/-! ### Growth -/

/-- One tree has what another has, and more empty files; under which names is left open. -/
structure Grows (mode : Nat) (old new : Filesystem) : Prop where
  /-- The working directory is the same. -/
  here_eq : new.here = old.here
  /-- Whatever is no directory is as it was. -/
  kept : ∀ {i node}, old.node? i = some node →
    (∀ parent entries, node ≠ .directory parent entries) → new.node? i = some node
  /-- A directory keeps its names, and those it gains are names of new inodes. -/
  gained : ∀ {i parent entries}, old.node? i = some (.directory parent entries) →
    ∃ more, new.node? i = some (.directory parent (entries ++ more)) ∧
      ∀ e ∈ more, old.node? e.2 = none
  /-- What is new is an empty file. -/
  made : ∀ {i node}, old.node? i = none → new.node? i = some node → node = .file [] mode

/-- There is a working directory. -/
def IsGrounded (fs : Filesystem) : Prop := (fs.node? fs.here).isSome

instance (fs : Filesystem) : Decidable fs.IsGrounded :=
  inferInstanceAs (Decidable ((fs.node? fs.here).isSome = true))

namespace Grows

variable {mode : Nat} {old mid new : Filesystem}

/-- Every tree grows into itself. -/
lemma refl (mode : Nat) (fs : Filesystem) : Grows mode fs fs where
  here_eq := rfl
  kept h _ := h
  gained h := ⟨[], by simpa using h, by simp⟩
  made h h' := by simp [h] at h'

/-- No inode gets lost. -/
lemma isSome (h : Grows mode old new) {i : Inode} (hi : (old.node? i).isSome) :
    (new.node? i).isSome := by
  obtain ⟨node, hnode⟩ := Option.isSome_iff_exists.1 hi
  cases node with
  | directory parent entries =>
    obtain ⟨more, hmore, -⟩ := h.gained hnode
    rw [hmore]
    rfl
  | file | symlink | socket | nullDevice | terminal =>
    rw [h.kept hnode (by simp)]
    rfl

/-- Growth after growth is growth. -/
lemma trans (h : Grows mode old mid) (h' : Grows mode mid new) : Grows mode old new where
  here_eq := h'.here_eq.trans h.here_eq
  kept hold hnode := h'.kept (h.kept hold hnode) hnode
  gained hold := by
    obtain ⟨more, hmid, hfresh⟩ := h.gained hold
    obtain ⟨more', hnew, hfresh'⟩ := h'.gained hmid
    refine ⟨more ++ more', by simpa using hnew, fun e he => ?_⟩
    rcases List.mem_append.1 he with he | he
    · exact hfresh e he
    · by_contra hsome
      have hmidSome := h.isSome (Option.isSome_iff_ne_none.2 hsome)
      rw [hfresh' e he] at hmidSome
      cases hmidSome
  made {i node} hold hnew := by
    cases hmid : mid.node? i with
    | none => exact h'.made hmid hnew
    | some node' =>
      obtain rfl := h.made hold hmid
      rw [h'.kept hmid (by simp)] at hnew
      exact (Option.some.inj hnew).symm

/-- A working directory stays one. -/
lemma isGrounded (h : Grows mode old new) (hold : old.IsGrounded) : new.IsGrounded := by
  unfold IsGrounded
  rw [h.here_eq]
  exact h.isSome hold

/-- What is neither a directory nor new was there before. -/
lemma old_of_new (h : Grows mode old new) {i : Inode} {node : Node}
    (hnew : new.node? i = some node) (hdir : ∀ parent entries, node ≠ .directory parent entries)
    (hfile : node ≠ .file [] mode) : old.node? i = some node := by
  cases hold : old.node? i with
  | none => exact absurd (h.made hold hnew) hfile
  | some node' =>
    cases node' with
    | directory parent entries =>
      obtain ⟨more, hmore, -⟩ := h.gained hold
      rw [hmore] at hnew
      exact absurd (Option.some.inj hnew).symm (hdir parent _)
    | file | symlink | socket | nullDevice | terminal =>
      rw [h.kept hold (by simp)] at hnew
      exact hnew

/-- A directory was one before. -/
lemma directory_of_new (h : Grows mode old new) {i parent : Inode}
    {entries : List (Bytes × Inode)} (hnew : new.node? i = some (.directory parent entries)) :
    ∃ entries', old.node? i = some (.directory parent entries') := by
  cases hold : old.node? i with
  | none => cases h.made hold hnew
  | some node =>
    cases node with
    | directory parent' entries' =>
      obtain ⟨more, hmore, -⟩ := h.gained hold
      rw [hmore] at hnew
      cases hnew
      exact ⟨entries', rfl⟩
    | file | symlink | socket | nullDevice | terminal =>
      rw [h.kept hold (by simp)] at hnew
      cases hnew

/-- A directory has under a name what it had before, or it has gained the name, for a new inode. -/
lemma lookup_of_new (h : Grows mode old new) {i parent parent' : Inode}
    {entries entries' : List (Bytes × Inode)}
    (hold : old.node? i = some (.directory parent entries))
    (hnew : new.node? i = some (.directory parent' entries')) (name : Bytes) :
    entries'.lookup name = entries.lookup name ∨
      entries.lookup name = none ∧
        ∃ j, entries'.lookup name = some j ∧ old.node? j = none := by
  obtain ⟨more, hmore, hfresh⟩ := h.gained hold
  cases hnew.symm.trans hmore
  rw [List.lookup_append]
  cases hlookup : entries.lookup name with
  | some j => exact .inl rfl
  | none =>
    rw [Option.none_or]
    cases hgained : more.lookup name with
    | none => exact .inl rfl
    | some j =>
      obtain ⟨before, after, rfl, -⟩ := List.lookup_eq_some_iff.1 hgained
      exact .inr ⟨rfl, j, rfl, hfresh (name, j) (by simp)⟩

/-- The links of a grown tree are the old ones. -/
lemma symlink_iff (h : Grows mode old new) {i : Inode} {target : Bytes} :
    new.node? i = some (.symlink target) ↔ old.node? i = some (.symlink target) :=
  ⟨fun hnew => h.old_of_new hnew (by simp) (by simp), fun hold => h.kept hold (by simp)⟩

/-- The sockets of a grown tree are the old ones. -/
lemma socket_iff (h : Grows mode old new) {i : Inode} :
    new.node? i = some .socket ↔ old.node? i = some .socket :=
  ⟨fun hnew => h.old_of_new hnew (by simp) (by simp), fun hold => h.kept hold (by simp)⟩

/-- Paths that start in an inode start there in a grown tree too. -/
lemma start_eq (h : Grows mode old new) {i : Inode} (hi : (old.node? i).isSome) (path : Bytes) :
    new.start path i = old.start path i := by
  obtain ⟨node, hnode⟩ := Option.isSome_iff_exists.1 hi
  obtain ⟨node', hnode'⟩ := Option.isSome_iff_exists.1 (h.isSome hi)
  rw [start, start, hnode, hnode']

end Grows

/-! ### Places in a grown tree -/

/-- A place at which a file can be opened or created: no vacant name with a slash behind it. -/
def Place.isOpenable : Place → Bool
  | .found _ _ => true
  | .vacant _ _ asDirectory => !asDirectory

/-- What is at a place now: a name that was vacant may have been filled. -/
def revisit (fs : Filesystem) : Place → Place
  | .found i asDirectory => .found i asDirectory
  | .vacant directory name asDirectory =>
    match fs.at? ⟨directory, name, asDirectory⟩ with
    | some i => .found i asDirectory
    | none => .vacant directory name asDirectory

section

variable {mode : Nat} {old new : Filesystem} {last : LastName}

/-- A walk takes the same way through a grown tree, up to a name that has been filled since. -/
lemma Walks.grows (h : Grows mode old new) {links : Nat} {here : Inode} {names : List Bytes}
    {place : Place} (hw : Walks old last links here names place) (hplace : place.isOpenable) :
    Walks new last links here names (new.revisit place) := by
  induction hw with
  | arrive => exact .arrive
  | slash => exact .slash
  | stay hdir hname _ ih =>
    obtain ⟨more, hnew, -⟩ := h.gained hdir
    exact .stay hnew hname (ih hplace)
  | ascend hdir _ ih =>
    obtain ⟨more, hnew, -⟩ := h.gained hdir
    exact .ascend hnew (ih hplace)
  | @miss links here parent entries name rest hdir hname hnone hrest =>
    obtain ⟨more, hnew, hfresh⟩ := h.gained hdir
    obtain rfl : rest = [] := by simpa [Place.isOpenable] using hplace
    have hat : new.at? ⟨here, name, false⟩ = more.lookup name := by
      simp [at?, hnew, List.lookup_append, hnone]
    have hlookup : (entries ++ more).lookup name = more.lookup name := by
      rw [List.lookup_append, hnone, Option.none_or]
    cases hmore : more.lookup name with
    | none =>
      simp only [revisit, List.isEmpty_nil, Bool.not_true, hat, hmore]
      exact .miss hnew hname (hlookup.trans hmore) hrest
    | some i =>
      -- the name was filled, with an inode that is new and therefore no link
      simp only [revisit, List.isEmpty_nil, Bool.not_true, hat, hmore]
      refine .enter hnew hname (hlookup.trans hmore) (fun target hlink => ?_) .arrive
      obtain ⟨before, after, rfl, -⟩ := List.lookup_eq_some_iff.1 hmore
      rw [h.symlink_iff, hfresh (name, i) (by simp)] at hlink
      cases hlink
  | link hdir hname hsome hlink hlast =>
    obtain ⟨more, hnew, -⟩ := h.gained hdir
    exact .link hnew hname (by rw [List.lookup_append, hsome, Option.some_or])
      (h.symlink_iff.2 hlink) hlast
  | follow hdir hname hsome hlink hlast _ ih =>
    obtain ⟨more, hnew, -⟩ := h.gained hdir
    refine .follow hnew hname (by rw [List.lookup_append, hsome, Option.some_or])
      (h.symlink_iff.2 hlink) hlast ?_
    rw [h.start_eq (by rw [hdir]; rfl)]
    exact ih hplace
  | enter hdir hname hsome hlink _ ih =>
    obtain ⟨more, hnew, -⟩ := h.gained hdir
    exact .enter hnew hname (by rw [List.lookup_append, hsome, Option.some_or])
      (fun target hnewLink => hlink target (h.symlink_iff.1 hnewLink)) (ih hplace)

/-- **A path keeps what it leads to** however much the tree grows; a name that was vacant may have
been filled since. -/
theorem resolve_of_grows (h : Grows mode old new) (hold : old.IsGrounded) {path : Bytes}
    {place : Place} (hplace : place.isOpenable) (hr : old.resolve path last = .ok place) :
    new.resolve path last = .ok (new.revisit place) := by
  obtain ⟨hne, hlength, hwalk⟩ := resolve_eq_ok_iff.1 hr
  refine resolve_eq_ok_iff.2 ⟨hne, hlength, ?_⟩
  rw [h.here_eq, h.start_eq hold]
  exact hwalk.grows h hplace

/-- A walk through a grown tree to a vacant name went the same way before.  No name on its way was
gained: behind a gained name there is an empty file, and from a file no walk comes to a name. -/
lemma Walks.of_grows (h : Grows mode old new) {links : Nat} {here directory : Inode}
    {names : List Bytes} {name : Bytes} {asDirectory : Bool}
    (hw : Walks new last links here names (.vacant directory name asDirectory)) :
    Walks old last links here names (.vacant directory name asDirectory) := by
  generalize hplace : Place.vacant directory name asDirectory = place at hw ⊢
  induction hw with
  | arrive | slash | link => cases hplace
  | stay hdir hname _ ih =>
    obtain ⟨entries, hold⟩ := h.directory_of_new hdir
    exact .stay hold hname (ih hplace)
  | ascend hdir _ ih =>
    obtain ⟨entries, hold⟩ := h.directory_of_new hdir
    exact .ascend hold (ih hplace)
  | @miss links here parent entries name rest hdir hname hnone hrest =>
    obtain ⟨entries', hold⟩ := h.directory_of_new hdir
    rcases h.lookup_of_new hold hdir name with hsame | ⟨-, i, hsome, -⟩
    · exact .miss hold hname (hsame.symm.trans hnone) hrest
    · cases hnone.symm.trans hsome
  | @follow links here parent entries name rest i target place hdir hname hsome hlink hlast _ ih =>
    obtain ⟨entries', hold⟩ := h.directory_of_new hdir
    have holdLink := h.symlink_iff.1 hlink
    rw [h.start_eq (by rw [hold]; rfl)] at ih
    rcases h.lookup_of_new hold hdir name with hsame | ⟨-, j, hgained, hfresh⟩
    · exact .follow hold hname (hsame.symm.trans hsome) holdLink hlast (ih hplace)
    · cases hsome.symm.trans hgained
      cases hfresh.symm.trans holdLink
  | @enter links here parent entries name rest i place hdir hname hsome hlink next ih =>
    obtain ⟨entries', hold⟩ := h.directory_of_new hdir
    rcases h.lookup_of_new hold hdir name with hsame | ⟨-, j, hgained, hfresh⟩
    · exact .enter hold hname (hsame.symm.trans hsome)
        (fun target holdLink => hlink target (h.symlink_iff.2 holdLink)) (ih hplace)
    · cases hsome.symm.trans hgained
      subst hplace
      obtain ⟨parent', entries'', hstart⟩ := next.directory_of_vacant
      obtain ⟨_, holdStart⟩ := h.directory_of_new hstart
      cases hfresh.symm.trans holdStart

/-- A name that a path leads to and that is vacant in a grown tree was vacant before. -/
lemma resolve_vacant_of_grows (h : Grows mode old new) (hold : old.IsGrounded) {path : Bytes}
    {directory : Inode} {name : Bytes} {asDirectory : Bool}
    (hr : new.resolve path last = .ok (.vacant directory name asDirectory)) :
    old.resolve path last = .ok (.vacant directory name asDirectory) := by
  obtain ⟨hne, hlength, hwalk⟩ := resolve_eq_ok_iff.1 hr
  rw [h.here_eq, h.start_eq hold] at hwalk
  exact resolve_eq_ok_iff.2 ⟨hne, hlength, hwalk.of_grows h⟩

end

/-! ### Opening a file that may be missing -/

section

variable {mode : Nat} {fs old new : Filesystem}

/-- The nodes after a new one was put under a name of a directory. -/
lemma node?_place {directory parent : Inode} {entries : List (Bytes × Inode)} {name : Bytes}
    {node : Node} (hdir : fs.node? directory = some (.directory parent entries)) (i : Inode) :
    (fs.place directory name node).2.node? i =
      if i = directory then some (.directory parent (entries ++ [(name, fs.nodes.size)]))
      else if i = fs.nodes.size then some node
      else fs.node? i := by
  obtain ⟨hlt, -⟩ := Array.getElem?_eq_some_iff.1 hdir
  have hpushed : (fs.nodes.push node)[directory]? = some (.directory parent entries) := by
    rw [Array.getElem?_push_lt hlt, ← hdir, node?, Array.getElem?_eq_getElem hlt]
  have hsize : directory < (fs.nodes.push node).size := by
    rw [Array.size_push]
    exact Nat.lt_succ_of_lt hlt
  simp only [place, addEntry, editEntries, node?, hpushed, setNode, Array.set!_eq_setIfInBounds,
    Array.getElem?_setIfInBounds, hsize, if_true, Array.getElem?_push, eq_comm (a := directory)]

/-- Putting an empty file under a name of a directory grows the tree. -/
lemma place_grows {directory parent : Inode} {entries : List (Bytes × Inode)} {name : Bytes}
    (hdir : fs.node? directory = some (.directory parent entries)) :
    Grows mode fs (fs.place directory name (.file [] mode)).2 := by
  have hfresh : fs.node? fs.nodes.size = none := Array.getElem?_eq_none le_rfl
  refine ⟨?_, fun {i node} hi hnode => ?_, fun {i parent' entries'} hi => ?_,
    fun {i node} hi hnew => ?_⟩
  · simp only [place, addEntry, editEntries]
    split <;> rfl
  · rw [node?_place hdir]
    have hi₁ : i ≠ directory := by
      rintro rfl
      exact hnode parent entries (Option.some.inj (hi.symm.trans hdir))
    have hi₂ : i ≠ fs.nodes.size := by
      rintro rfl
      rw [hfresh] at hi
      cases hi
    rw [if_neg hi₁, if_neg hi₂, hi]
  · rw [node?_place hdir]
    by_cases hi₁ : i = directory
    · subst hi₁
      obtain ⟨rfl, rfl⟩ : parent = parent' ∧ entries = entries' := by
        simpa using hdir.symm.trans hi
      refine ⟨[(name, fs.nodes.size)], if_pos rfl, fun e he => ?_⟩
      rw [List.mem_singleton.1 he, hfresh]
    · have hi₂ : i ≠ fs.nodes.size := by
        rintro rfl
        rw [hfresh] at hi
        cases hi
      exact ⟨[], by rw [if_neg hi₁, if_neg hi₂, hi, List.append_nil], by simp⟩
  · rw [node?_place hdir] at hnew
    split at hnew
    · next hi₁ =>
      rw [hi₁, hdir] at hi
      cases hi
    · split at hnew
      · exact (Option.some.inj hnew).symm
      · rw [hi] at hnew
        cases hnew

/-- Whether an inode can be opened for reading and writing. -/
def CanOpen (fs : Filesystem) (i : Inode) : Prop :=
  (∀ parent entries, fs.node? i ≠ some (.directory parent entries)) ∧ fs.node? i ≠ some .socket

/-- An opening that may create a file finds an inode, or puts an empty file where the path leads to
a vacant name. -/
theorem openOrCreate_eq_ok_iff {path : Bytes} {i : Inode} {new : Filesystem} :
    fs.openOrCreate path mode = .ok (i, new) ↔
      nul ∉ path ∧
        (fs.resolve path .wantedFile = .ok (.found i false) ∧ fs.CanOpen i ∧ new = fs ∨
          ∃ directory name, fs.resolve path .wantedFile = .ok (.vacant directory name false) ∧
            (i, new) = fs.place directory name (.file [] mode)) := by
  by_cases hnul : nul ∈ path
  · simp [openOrCreate, checked, hnul]
  have hchecked : checked path = .ok path := by simp [checked, hnul]
  simp only [openOrCreate, hchecked]
  cases hr : fs.resolve path .wantedFile with
  | error e => simp
  | ok place =>
    cases place with
    | found j asDirectory =>
      cases asDirectory with
      | true => simp
      | false =>
        dsimp only
        constructor
        · intro h
          split at h
          · cases h
          · cases h
          next hdir hsocket =>
          cases h
          exact ⟨hnul, .inl ⟨rfl, ⟨hdir, hsocket⟩, rfl⟩⟩
        · rintro ⟨-, ⟨h, hopen, rfl⟩ | ⟨_, _, h, -⟩⟩
          · cases h
            split
            · next hdir => exact absurd hdir (hopen.1 _ _)
            · next hsocket => exact absurd hsocket hopen.2
            · rfl
          · cases h
    | vacant directory name asDirectory => cases asDirectory <;> simp [hnul, eq_comm]

/-- No name stands where a path leads to a vacant one. -/
lemma at?_of_resolve_vacant {last : LastName} {path : Bytes} {directory : Inode} {name : Bytes}
    {asDirectory : Bool} (h : fs.resolve path last = .ok (.vacant directory name asDirectory)) :
    fs.at? ⟨directory, name, asDirectory⟩ = none := by
  obtain ⟨-, -, hwalk⟩ := resolve_eq_ok_iff.1 h
  obtain ⟨parent, entries, hdir, hnone⟩ := hwalk.vacant_inv
  simp only [at?, hdir, hnone]

/-- A name that is added to a directory changes no other name. -/
lemma at?_addEntry_of_ne {directory i : Inode} {name : Bytes} {spot : Spot}
    (h : (spot.directory, spot.name) ≠ (directory, name)) :
    (fs.addEntry directory name i).at? spot = fs.at? spot := by
  unfold addEntry editEntries
  split
  · next parent entries hdir =>
    obtain ⟨hlt, -⟩ := Array.getElem?_eq_some_iff.1 hdir
    by_cases hi : directory = spot.directory
    · subst hi
      have hname : (spot.name == name) = false :=
        beq_eq_false_iff_ne.2 fun hname => h (by rw [hname])
      have hset : (fs.setNode spot.directory (.directory parent (entries ++ [(name, i)]))).node?
          spot.directory = some (.directory parent (entries ++ [(name, i)])) := by
        simp [setNode, node?, hlt]
      simp only [at?, hset, hdir, List.lookup_append, List.lookup_cons, hname, List.lookup_nil,
        Option.or_none]
    · simp [at?, setNode, node?, hi]
  · rfl

/-- A new file holds no name. -/
lemma at?_push_file {content : Bytes} {spot : Spot} :
    { fs with nodes := fs.nodes.push (.file content mode) }.at? spot = fs.at? spot := by
  by_cases hi : spot.directory = fs.nodes.size
  · simp [at?, node?, hi]
  · simp [at?, node?, Array.getElem?_push, hi]

/-- A file that is put under a name changes no other name. -/
lemma at?_place_of_ne {directory : Inode} {name content : Bytes} {spot : Spot}
    (h : (spot.directory, spot.name) ≠ (directory, name)) :
    (fs.place directory name (.file content mode)).2.at? spot = fs.at? spot :=
  (at?_addEntry_of_ne h).trans at?_push_file

/-- The tree with an empty file at each of these places, which are names in directories. -/
def placeFiles (fs : Filesystem) (mode : Nat) (places : List (Inode × Bytes)) : Filesystem :=
  places.foldl (fun fs place => (fs.place place.1 place.2 (.file [] mode)).2) fs

/-- Placing files and then others is placing all of them. -/
lemma placeFiles_append (places places' : List (Inode × Bytes)) :
    fs.placeFiles mode (places ++ places') = (fs.placeFiles mode places).placeFiles mode places' :=
  List.foldl_append

/-- A name that stands in a tree after files were placed is one of theirs, or stood there before. -/
lemma mem_of_at?_placeFiles {places : List (Inode × Bytes)} {spot : Spot} {i : Inode}
    (h : (fs.placeFiles mode places).at? spot = some i) (hfs : fs.at? spot = none) :
    (spot.directory, spot.name) ∈ places := by
  induction places generalizing fs with
  | nil => cases hfs.symm.trans h
  | cons place places ih =>
    by_cases hplace : (spot.directory, spot.name) = place
    · exact hplace ▸ List.mem_cons_self
    · exact List.mem_cons_of_mem _ (ih h ((at?_place_of_ne hplace).trans hfs))

/-- **Opening a file places it where its path leads to a vacant name**, and changes nothing else. -/
theorem openOrCreate_placeFiles {path : Bytes} {i : Inode}
    (h : fs.openOrCreate path mode = .ok (i, new)) :
    ∃ places : List (Inode × Bytes), places.Nodup ∧
      (∀ place, place ∈ places ↔
        fs.resolve path .wantedFile = .ok (.vacant place.1 place.2 false)) ∧
      new = fs.placeFiles mode places := by
  obtain ⟨-, ⟨hr, -, rfl⟩ | ⟨directory, name, hr, hplace⟩⟩ := openOrCreate_eq_ok_iff.1 h
  · exact ⟨[], .nil, fun place => by simp [hr], rfl⟩
  · refine ⟨[(directory, name)], List.nodup_singleton _, fun place => ?_,
      congrArg Prod.snd hplace⟩
    simp [hr, Prod.ext_iff, eq_comm]

/-- Whatever can be opened can be opened in a grown tree. -/
lemma CanOpen.grows (h : Grows mode old new) {i : Inode} (hi : old.CanOpen i) : new.CanOpen i := by
  refine ⟨fun parent entries hnew => ?_, fun hnew => hi.2 (h.socket_iff.1 hnew)⟩
  obtain ⟨entries', hold⟩ := h.directory_of_new hnew
  exact hi.1 parent entries' hold

/-- **Opening a file that may be missing grows the tree.** -/
theorem openOrCreate_grows {path : Bytes} {i : Inode}
    (h : fs.openOrCreate path mode = .ok (i, new)) : Grows mode fs new := by
  obtain ⟨-, ⟨-, -, rfl⟩ | ⟨directory, name, hr, hplace⟩⟩ := openOrCreate_eq_ok_iff.1 h
  · exact .refl mode _
  · obtain ⟨-, -, hwalk⟩ := resolve_eq_ok_iff.1 hr
    obtain ⟨parent, entries, hdir, -⟩ := hwalk.vacant_inv
    rw [show new = (fs.place directory name (.file [] mode)).2 from congrArg Prod.snd hplace]
    exact place_grows hdir

/-- Nothing but the opened inode is new, and it is new only if its name was vacant. -/
lemma eq_of_openOrCreate_new {path : Bytes} {i j : Inode}
    (h : fs.openOrCreate path mode = .ok (i, new)) (hj : fs.node? j = none)
    (hnew : (new.node? j).isSome) :
    j = i ∧ ∃ directory name, fs.resolve path .wantedFile = .ok (.vacant directory name false) := by
  obtain ⟨-, ⟨-, -, rfl⟩ | ⟨directory, name, hr, hplace⟩⟩ := openOrCreate_eq_ok_iff.1 h
  · rw [hj] at hnew
    cases hnew
  obtain ⟨-, -, hwalk⟩ := resolve_eq_ok_iff.1 hr
  obtain ⟨parent, entries, hdir, -⟩ := hwalk.vacant_inv
  obtain ⟨rfl, rfl⟩ : i = fs.nodes.size ∧ new = (fs.place directory name (.file [] mode)).2 :=
    Prod.mk.inj hplace
  refine ⟨?_, directory, name, hr⟩
  rw [node?_place hdir] at hnew
  split at hnew
  · next hdirectory =>
    rw [hdirectory, hdir] at hj
    cases hj
  · split at hnew
    · next hsize => exact hsize
    · rw [hj] at hnew
      cases hnew

/-- After a file was opened, its path leads to it. -/
lemma resolve_of_openOrCreate {path : Bytes} {i : Inode} (hfs : fs.IsGrounded)
    (h : fs.openOrCreate path mode = .ok (i, new)) :
    new.resolve path .wantedFile = .ok (.found i false) ∧ new.CanOpen i := by
  have hgrows := openOrCreate_grows h
  obtain ⟨-, ⟨hr, hopen, rfl⟩ | ⟨directory, name, hr, hplace⟩⟩ := openOrCreate_eq_ok_iff.1 h
  · exact ⟨hr, hopen⟩
  obtain ⟨-, -, hwalk⟩ := resolve_eq_ok_iff.1 hr
  obtain ⟨parent, entries, hdir, hnone⟩ := hwalk.vacant_inv
  obtain ⟨rfl, rfl⟩ : i = fs.nodes.size ∧ new = (fs.place directory name (.file [] mode)).2 :=
    Prod.mk.inj hplace
  have hne : fs.nodes.size ≠ directory := by
    rintro rfl
    rw [node?, Array.getElem?_eq_none le_rfl] at hdir
    cases hdir
  have hmade : (fs.place directory name (.file [] mode)).2.node? fs.nodes.size =
      some (.file [] mode) := by
    rw [node?_place hdir, if_neg hne, if_pos rfl]
  refine ⟨?_, by simp [hmade], by simp [hmade]⟩
  rw [resolve_of_grows hgrows hfs rfl hr]
  simp [revisit, at?, node?_place hdir, List.lookup_append, hnone]

/-- **An opening can be repeated**: it gives the same inode and changes nothing, in every tree that
the first opening's grows into. -/
theorem openOrCreate_of_grows {path : Bytes} {i : Inode} (hfs : fs.IsGrounded)
    (h : fs.openOrCreate path mode = .ok (i, old)) (hgrows : Grows mode old new) :
    new.openOrCreate path mode = .ok (i, new) := by
  obtain ⟨hnul, -⟩ := openOrCreate_eq_ok_iff.1 h
  obtain ⟨hr, hopen⟩ := resolve_of_openOrCreate hfs h
  have hold : old.IsGrounded := (openOrCreate_grows h).isGrounded hfs
  exact openOrCreate_eq_ok_iff.2
    ⟨hnul, .inl ⟨resolve_of_grows hgrows hold rfl hr, hopen.grows hgrows, rfl⟩⟩

/-- A path leads to an inode when it denotes one that is a directory, or need not be one. -/
lemma existing_eq_ok_iff {path : Bytes} {follow : Bool} {i : Inode} :
    fs.existing path follow = .ok i ↔
      ∃ asDirectory,
        fs.resolve path (if follow then .followed else .itself) = .ok (.found i asDirectory) ∧
        (asDirectory = true → ∃ parent entries, fs.node? i = some (.directory parent entries)) := by
  unfold existing
  cases fs.resolve path (if follow then .followed else .itself) with
  | error e => simp
  | ok place =>
    cases place with
    | vacant directory name asDirectory => simp
    | found j asDirectory =>
      cases asDirectory with
      | false => simp
      | true =>
        constructor
        · intro h
          simp only at h
          split at h
          · next hdir =>
            cases h
            exact ⟨true, rfl, fun _ => ⟨_, _, hdir⟩⟩
          · cases h
          · next hfalse => cases hfalse
        · rintro ⟨asDirectory, hfound, hdir⟩
          cases hfound
          obtain ⟨parent, entries, hi⟩ := hdir rfl
          simp only [hi]

/-- An opening for reading finds anything but a socket. -/
lemma openExisting_eq_ok_iff {path : Bytes} {i : Inode} :
    fs.openExisting path = .ok i ↔
      nul ∉ path ∧ fs.existing path true = .ok i ∧ fs.node? i ≠ some .socket := by
  by_cases hnul : nul ∈ path
  · simp [openExisting, inode, checked, hnul]
  have hchecked : checked path = .ok path := by simp [checked, hnul]
  unfold openExisting inode
  rw [hchecked]
  cases hexisting : fs.existing path true with
  | error e => simp [hexisting, Except.mapError]
  | ok j =>
    by_cases hsocket : fs.node? j = some .socket
    · simp only [hexisting, Except.mapError, hsocket]
      refine iff_of_false (by simp) ?_
      rintro ⟨-, hji, hne⟩
      cases hji
      exact hne hsocket
    · simp only [hexisting, Except.mapError, Except.ok.injEq]
      constructor
      · rintro rfl
        exact ⟨hnul, rfl, hsocket⟩
      · exact fun h => h.2.1

/-- What can be opened for reading stays the same. -/
lemma openExisting_of_grows {path : Bytes} {i : Inode} (hold : old.IsGrounded)
    (h : old.openExisting path = .ok i) (hgrows : Grows mode old new) :
    new.openExisting path = .ok i := by
  obtain ⟨hnul, hexisting, hsocket⟩ := openExisting_eq_ok_iff.1 h
  obtain ⟨asDirectory, hr, hdir⟩ := existing_eq_ok_iff.1 hexisting
  refine openExisting_eq_ok_iff.2 ⟨hnul, existing_eq_ok_iff.2
    ⟨asDirectory, resolve_of_grows hgrows hold rfl hr, fun has => ?_⟩,
    fun hnew => hsocket (hgrows.socket_iff.1 hnew)⟩
  obtain ⟨parent, entries, hi⟩ := hdir has
  obtain ⟨more, hnew, -⟩ := hgrows.gained hi
  exact ⟨parent, _, hnew⟩

end

end ContainerEntry.Filesystem
