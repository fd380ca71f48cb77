import Mathlib
import ContainerEntry.Proofs.Filesystem.Below
import ContainerEntry.Proofs.Filesystem.Growth

/-!
# One entry more

Two trees of which one has another entry in one directory, and perhaps nodes that only this entry
leads to.  `AddsEntry` covers both ways to get from one to the other: an entry that is taken away,
with its node left behind, and an entry that is put there with new nodes below it.

* **A walk goes where another tree has its way** (`Carries.walks`): of the two trees, one carries
  the walks of the other if what a walk can reach is the same there, but for directories that keep
  the names that walks look up.
* **What was found stays found** (`AddsEntry.carries_less`): the larger tree carries every walk that
  comes to an inode of the smaller one.
* **What does not go through the entry does not need it** (`AddsEntry.carries_more`): the smaller
  tree carries every walk of the larger one that never looks the entry's name up, and that is so
  where neither the path nor a link has the name.
-/

namespace ContainerEntry.Filesystem

open Bytes ContainerEntry.Path

/-! ### Trees that carry the walks of others -/

/-- One tree has what the walks of another need, as long as they stay at some inodes and look up
some names only. -/
structure Carries (reached : Inode → Prop) (named : Bytes → Prop) (fs fs' : Filesystem) : Prop where
  /-- The working directory is the same. -/
  here_eq : fs'.here = fs.here
  /-- Absolute paths start at an inode that is reached. -/
  root : reached root
  /-- Relative paths start at an inode that is reached. -/
  here : reached fs.here
  /-- What is reached is the same, or a directory that keeps the names that are looked up. -/
  node?_cases : ∀ {i}, reached i → fs'.node? i = fs.node? i ∨ ∃ parent entries entries',
    fs.node? i = some (.directory parent entries) ∧
    fs'.node? i = some (.directory parent entries') ∧
    ∀ name j, named name → entries.lookup name = some j → entries'.lookup name = some j
  /-- Parents are reached. -/
  parent : ∀ {i parent entries}, reached i → fs.node? i = some (.directory parent entries) →
    reached parent
  /-- What a name stands for is reached. -/
  entry : ∀ {i parent entries name j}, reached i → fs.node? i = some (.directory parent entries) →
    named name → entries.lookup name = some j → reached j
  /-- Links lead through names that are looked up. -/
  target : ∀ {i target}, fs.node? i = some (.symlink target) → ∀ name ∈ pieces target, named name

namespace Carries

variable {reached : Inode → Prop} {named : Bytes → Prop} {fs fs' : Filesystem} {i : Inode}

/-- Links are the same. -/
lemma symlink_iff (h : Carries reached named fs fs') (hi : reached i) {target : Bytes} :
    fs'.node? i = some (.symlink target) ↔ fs.node? i = some (.symlink target) := by
  rcases h.node?_cases hi with heq | ⟨parent, entries, entries', hdir, hdir', -⟩
  · rw [heq]
  · rw [hdir, hdir']
    simp

/-- A directory keeps the names that are looked up. -/
lemma directory (h : Carries reached named fs fs') (hi : reached i) {parent : Inode}
    {entries : List (Bytes × Inode)} (hdir : fs.node? i = some (.directory parent entries)) :
    ∃ entries', fs'.node? i = some (.directory parent entries') ∧
      ∀ name j, named name → entries.lookup name = some j → entries'.lookup name = some j := by
  rcases h.node?_cases hi with heq | ⟨parent', found, entries', hfound, hdir', hnames⟩
  · exact ⟨entries, heq.trans hdir, fun _ _ _ hlookup => hlookup⟩
  · cases hdir.symm.trans hfound
    exact ⟨entries', hdir', hnames⟩

/-- Where a path starts is reached. -/
lemma reached_start (h : Carries reached named fs fs') (hi : reached i) (path : Bytes) :
    reached (fs.start path i) := by
  unfold start
  split_ifs
  · exact h.root
  · split
    · exact hi
    · exact h.root

/-- Paths start where they did. -/
lemma start_eq (h : Carries reached named fs fs') (hi : reached i) (path : Bytes) :
    fs'.start path i = fs.start path i := by
  unfold start
  rcases h.node?_cases hi with heq | ⟨parent, entries, entries', hdir, hdir', -⟩
  · rw [heq]
  · rw [hdir, hdir']

/-- **A walk that comes to an inode comes to it in a tree that carries it.** -/
theorem walks (h : Carries reached named fs fs') {last : LastName} {links : Nat} {here : Inode}
    {names : List Bytes} {asDirectory : Bool} (hhere : reached here)
    (hnames : ∀ name ∈ names, named name)
    (hwalk : Walks fs last links here names (.found i asDirectory)) :
    Walks fs' last links here names (.found i asDirectory) ∧ reached i := by
  generalize hplace : Place.found i asDirectory = place at hwalk
  induction hwalk with
  | arrive =>
    cases hplace
    exact ⟨.arrive, hhere⟩
  | slash =>
    cases hplace
    exact ⟨.slash, hhere⟩
  | miss => cases hplace
  | stay hdir hname _ ih =>
    obtain ⟨entries', hdir', -⟩ := h.directory hhere hdir
    obtain ⟨hnext, hi⟩ := ih hhere (List.forall_mem_of_forall_mem_cons hnames) hplace
    exact ⟨.stay hdir' hname hnext, hi⟩
  | ascend hdir _ ih =>
    obtain ⟨entries', hdir', -⟩ := h.directory hhere hdir
    obtain ⟨hnext, hi⟩ :=
      ih (h.parent hhere hdir) (List.forall_mem_of_forall_mem_cons hnames) hplace
    exact ⟨.ascend hdir' hnext, hi⟩
  | link hdir hname hsome hlink hlast =>
    cases hplace
    obtain ⟨entries', hdir', hlookup⟩ := h.directory hhere hdir
    have hfirst := hnames _ List.mem_cons_self
    have hj := h.entry hhere hdir hfirst hsome
    exact ⟨.link hdir' hname (hlookup _ _ hfirst hsome) ((h.symlink_iff hj).2 hlink) hlast, hj⟩
  | follow hdir hname hsome hlink hlast _ ih =>
    obtain ⟨entries', hdir', hlookup⟩ := h.directory hhere hdir
    obtain ⟨hfirst, hbehind⟩ := List.forall_mem_cons.1 hnames
    have hj := h.entry hhere hdir hfirst hsome
    obtain ⟨hnext, hi⟩ := ih (h.reached_start hhere _)
      (List.forall_mem_append.2 ⟨h.target hlink, hbehind⟩) hplace
    rw [← h.start_eq hhere] at hnext
    exact ⟨.follow hdir' hname (hlookup _ _ hfirst hsome) ((h.symlink_iff hj).2 hlink) hlast hnext,
      hi⟩
  | enter hdir hname hsome hlink _ ih =>
    obtain ⟨entries', hdir', hlookup⟩ := h.directory hhere hdir
    obtain ⟨hfirst, hbehind⟩ := List.forall_mem_cons.1 hnames
    have hj := h.entry hhere hdir hfirst hsome
    obtain ⟨hnext, hi⟩ := ih hj hbehind hplace
    exact ⟨.enter hdir' hname (hlookup _ _ hfirst hsome)
      (fun target htarget => hlink target ((h.symlink_iff hj).1 htarget)) hnext, hi⟩

variable {path : Bytes}

/-- **A path that leads to an inode leads to it in a tree that carries its walk.** -/
theorem inode (h : Carries reached named fs fs') (hpath : ∀ name ∈ pieces path, named name)
    (hinode : fs.inode path = .ok i) : fs'.inode path = .ok i ∧ reached i := by
  obtain ⟨hnul, hexisting⟩ := inode_eq_ok_iff.1 hinode
  obtain ⟨asDirectory, hresolve, hdir⟩ := existing_eq_ok_iff.1 hexisting
  obtain ⟨hne, hlength, hwalk⟩ := resolve_eq_ok_iff.1 hresolve
  obtain ⟨hwalk', hi⟩ := h.walks (h.reached_start h.here path) hpath hwalk
  rw [← h.start_eq h.here, ← h.here_eq] at hwalk'
  refine ⟨inode_eq_ok_iff.2 ⟨hnul, existing_eq_ok_iff.2 ⟨asDirectory,
    resolve_eq_ok_iff.2 ⟨hne, hlength, hwalk'⟩, fun has => ?_⟩⟩, hi⟩
  obtain ⟨parent, entries, hfound⟩ := hdir has
  obtain ⟨entries', hdir', -⟩ := h.directory hi hfound
  exact ⟨parent, entries', hdir'⟩

/-- A file that is read is read in a tree that carries the walk to it. -/
lemma readFile (h : Carries reached named fs fs') (hpath : ∀ name ∈ pieces path, named name)
    {content : Bytes} (hread : fs.readFile path = .ok content) :
    fs'.readFile path = .ok content := by
  unfold Filesystem.readFile at hread ⊢
  split at hread
  · cases hread
  next i hinode =>
  obtain ⟨hinode', hi⟩ := h.inode hpath hinode
  rw [hinode']
  rcases h.node?_cases hi with heq | ⟨parent, entries, entries', hdir, -⟩
  · simpa only [heq] using hread
  · rw [hdir] at hread
    cases hread

end Carries

/-! ### Trees with an entry more -/

/-- The inodes that a tree speaks of. -/
inductive Mentions (fs : Filesystem) : Inode → Prop where
  /-- Absolute paths start at the root. -/
  | root : Mentions fs root
  /-- Relative paths start at the working directory. -/
  | here : Mentions fs fs.here
  /-- A directory has a parent. -/
  | parent {i parent entries} (hdir : fs.node? i = some (.directory parent entries)) :
      Mentions fs parent
  /-- A directory has entries. -/
  | entry {i parent entries e} (hdir : fs.node? i = some (.directory parent entries))
      (he : e ∈ entries) : Mentions fs e.2

/-- The larger tree has what the smaller one has, and another entry in one directory. -/
structure AddsEntry (home : Inode) (entry : Bytes) (less more : Filesystem) : Prop where
  /-- The working directory is the same. -/
  here_eq : more.here = less.here
  /-- Whatever the smaller tree speaks of is the same, but for the directory. -/
  same : ∀ i, less.Mentions i → i ≠ home → more.node? i = less.node? i
  /-- The directory of the smaller tree has no entry of the name. -/
  home : ∃ parent entries, more.node? home = some (.directory parent entries) ∧
    less.node? home = some (.directory parent (entries.filter (·.1 != entry)))

/-- No link leads through the name. -/
def LinksAvoid (fs : Filesystem) (name : Bytes) : Prop :=
  ∀ i target, fs.node? i = some (.symlink target) → name ∉ pieces target

/-- What a name stands for is spoken of. -/
lemma mentions_of_lookup {fs : Filesystem} {i j parent : Inode} {entries : List (Bytes × Inode)}
    {name : Bytes} (hdir : fs.node? i = some (.directory parent entries))
    (hlookup : entries.lookup name = some j) : fs.Mentions j := by
  obtain ⟨front, behind, rfl, -⟩ := List.lookup_eq_some_iff.1 hlookup
  exact .entry (e := (name, j)) hdir (by simp)

namespace AddsEntry

variable {home : Inode} {entry : Bytes} {less more : Filesystem}

/-- What the smaller tree speaks of is the same, or a directory with the entry. -/
lemma node?_cases (h : AddsEntry home entry less more) {i : Inode} (hi : less.Mentions i) :
    more.node? i = less.node? i ∨ ∃ parent entries,
      more.node? i = some (.directory parent entries) ∧
        less.node? i = some (.directory parent (entries.filter (·.1 != entry))) := by
  by_cases heq : i = home
  · subst heq
    exact .inr h.home
  · exact .inl (h.same i hi heq)

/-- Names other than the entry's stand for the same inodes. -/
lemma lookup_kept (entries : List (Bytes × Inode)) {name : Bytes} (hname : name ≠ entry) :
    (entries.filter (·.1 != entry)).lookup name = entries.lookup name := by
  rw [lookup_filter (· != entry), if_pos (bne_iff_ne.2 hname)]

/-- **Whatever a path leads to, it leads to when there is an entry more.** -/
theorem carries_less (h : AddsEntry home entry less more) :
    Carries less.Mentions (fun _ => True) less more where
  here_eq := h.here_eq
  root := .root
  here := .here
  node?_cases hi := by
    apply (h.node?_cases hi).imp id
    rintro ⟨parent, entries, hmore, hless⟩
    refine ⟨parent, _, entries, hless, hmore, fun name j _ hlookup => ?_⟩
    rw [lookup_filter (· != entry)] at hlookup
    split_ifs at hlookup
    exact hlookup
  parent _ hdir := .parent hdir
  entry _ hdir _ hlookup := mentions_of_lookup hdir hlookup
  target _ _ _ := trivial

/-- **What does not go through the entry leads to the same without it.** -/
theorem carries_more (h : AddsEntry home entry less more) (hlinks : more.LinksAvoid entry) :
    Carries less.Mentions (· ≠ entry) more less where
  here_eq := h.here_eq.symm
  root := .root
  here := h.here_eq ▸ .here
  node?_cases hi := by
    apply (h.node?_cases hi).imp Eq.symm
    rintro ⟨parent, entries, hmore, hless⟩
    exact ⟨parent, entries, _, hmore, hless, fun name j hname hlookup =>
      (lookup_kept entries hname).trans hlookup⟩
  parent hi hdir := by
    rcases h.node?_cases hi with heq | ⟨parent, entries, hmore, hless⟩
    · exact .parent (heq ▸ hdir)
    · cases hdir.symm.trans hmore
      exact .parent hless
  entry hi hdir hname hlookup := by
    rcases h.node?_cases hi with heq | ⟨parent, entries, hmore, hless⟩
    · exact mentions_of_lookup (heq ▸ hdir) hlookup
    · cases hdir.symm.trans hmore
      exact mentions_of_lookup hless ((lookup_kept _ hname).trans hlookup)
  target hlink name hname := fun heq => hlinks _ _ hlink (heq ▸ hname)

/-- The directory gives its names but for the entry's. -/
lemma readDirectory_of_less (h : AddsEntry home entry less more) {path : Bytes}
    {entries rest : List Bytes} (hhome : more.inode path = .ok home)
    (hmore : more.readDirectory path = .ok entries) (hless : less.readDirectory path = .ok rest) :
    rest = entries.filter (· != entry) := by
  obtain ⟨parent, found, hdir, hdir'⟩ := h.home
  unfold readDirectory at hmore hless
  split at hless
  · cases hless
  next i hinode =>
  obtain ⟨hinode', -⟩ := h.carries_less.inode (fun _ _ => trivial) hinode
  obtain rfl : home = i := Except.ok.inj (hhome.symm.trans hinode')
  simp only [hhome, hdir, Except.ok.injEq] at hmore
  simp only [hdir', Except.ok.injEq] at hless
  rw [← hless, ← hmore, List.filter_map]
  rfl

end AddsEntry

variable {fs : Filesystem} {home parent : Inode} {entries : List (Bytes × Inode)} {name : Bytes}

/-- Taking an entry away leaves a tree to which it would be added. -/
lemma addsEntry_dropEntry (hdir : fs.node? home = some (.directory parent entries)) (name : Bytes) :
    AddsEntry home name (fs.dropEntry home name) fs := by
  obtain ⟨hlt, -⟩ := Array.getElem?_eq_some_iff.1 hdir
  rw [dropEntry, editEntries, hdir]
  refine ⟨rfl, fun i _ hi => ?_, parent, entries, hdir, ?_⟩
  · simp [setNode, node?, hi.symm]
  · simp [setNode, node?, hlt]

/-- Putting a node under a name that a directory lacks adds an entry, if nothing in the tree stands
for the new inode already. -/
lemma addsEntry_place (hdir : fs.node? home = some (.directory parent entries))
    (hlacks : fs.Lacks home name) (hfresh : ¬ fs.Mentions fs.nodes.size) (node : Node) :
    AddsEntry home name fs (fs.place home name node).2 := by
  obtain ⟨hlt, hget⟩ := Array.getElem?_eq_some_iff.1 hdir
  have hpushed : ({ fs with nodes := fs.nodes.push node } : Filesystem).node? home =
      some (.directory parent entries) := by
    rw [node?, Array.getElem?_push_lt hlt, hget]
  have hkept : (entries ++ [(name, fs.nodes.size)]).filter (·.1 != name) = entries := by
    rw [List.filter_append, List.filter_eq_self.2]
    · simp
    · intro e he
      have hne : e.1 ≠ name := fun heq => hlacks _ _ hdir (List.mem_map.2 ⟨e, he, heq⟩)
      exact bne_iff_ne.2 hne
  rw [place, addEntry, editEntries, hpushed]
  refine ⟨rfl, fun i hi hne => ?_, parent, entries ++ [(name, fs.nodes.size)], ?_, ?_⟩
  · have hsize : i ≠ fs.nodes.size := fun heq => hfresh (heq ▸ hi)
    simp [setNode, node?, Array.getElem?_push, hne.symm, hsize]
  · have hlt' : home < (fs.nodes.push node).size := by
      rw [Array.size_push]
      exact Nat.lt_succ_of_lt hlt
    simp only [setNode, node?, Array.set!_eq_setIfInBounds]
    exact Array.getElem?_setIfInBounds_self_of_lt hlt'
  · rw [hkept, hdir]

end ContainerEntry.Filesystem
