import Mathlib
import ContainerEntry.Proofs.Basic
import ContainerEntry.Proofs.Filesystem.Names
import ContainerEntry.Proofs.Filesystem.Walk
import ContainerEntry.Proofs.Path

/-!
# What stands above a path that leads somewhere

A plain name looked up from a path is one more name at the end of the walk (`pieces_join`), so the
walk has been through everything above.

* **A walk can be cut before its last name** (`Walks.cut`): the names without the last lead to where
  it is looked up, and where a walk ends at a plain name, that is a directory that holds the name
  (`Walks.above`).  Links on the way do not matter, since a link's target takes the place of its own
  name only.
* **What is above is a directory that holds the name** (`holds_of_inode_join`): if a plain name
  looked up from a path leads to an inode, then the path leads to a directory with that name in it.
  Only the empty path is an exception: it leads nowhere, but a name looked up from it leads to where
  the name leads from the working directory.
* **A name in a directory leads to what it stands for** (`inode_join_of_lookup`), unless that is a
  link or a limit is exceeded.
-/

namespace ContainerEntry

open Bytes ContainerEntry.Path

namespace Path

variable {base name : Bytes}

/-- A plain name looked up from a path is written behind it, with at most a slash between. -/
lemma IsPlain.exists_join_eq (h : IsPlain name) (base : Bytes) :
    ∃ front, join base name = base ++ front ++ name ∧ (front = [] ∨ front = [slash]) := by
  rw [join, h.isAbsolute_eq, if_neg Bool.false_ne_true]
  split
  · exact ⟨[], by rw [List.append_nil], .inl rfl⟩
  · exact ⟨[slash], by rw [List.append_assoc, List.singleton_append], .inr rfl⟩

/-- A plain name is looked up from where the path starts. -/
lemma IsPlain.isAbsolute_join (h : IsPlain name) (hbase : base ≠ []) :
    isAbsolute (join base name) = isAbsolute base := by
  obtain ⟨front, heq, -⟩ := h.exists_join_eq base
  obtain ⟨b, rest, rfl⟩ := List.exists_cons_of_ne_nil hbase
  rw [heq, List.cons_append, List.cons_append, isAbsolute_cons, isAbsolute_cons]

end Path

namespace Filesystem

variable {fs : Filesystem} {base name : Bytes}

/-! ### The names on a path -/

/-- The names on a path are those between its slashes, with nothing or a slash behind them. -/
lemma pieces_cases (path : Bytes) :
    pieces path = (fields slash path).filter (· != []) ∨
      pieces path = (fields slash path).filter (· != []) ++ [[]] := by
  unfold pieces
  dsimp only
  split
  · exact .inl rfl
  · exact .inr rfl

/-- A plain name looked up from a path is written behind its names. -/
lemma filter_fields_join (h : IsPlain name) (hbase : base ≠ []) :
    (fields slash (join base name)).filter (· != []) =
      (fields slash base).filter (· != []) ++ [name] := by
  have hne : name ≠ [] := by
    rintro rfl
    exact absurd h.isNormal (by decide)
  rw [join, h.isAbsolute_eq, if_neg Bool.false_ne_true]
  -- a slash at the end of the base is the one between the base and the name
  by_cases hslash : endsInSlash base
  · obtain ⟨front, rfl⟩ := List.getLast?_eq_some_iff.1 (beq_iff_eq.1 hslash)
    rw [hslash, Bool.or_true, if_pos rfl, List.append_assoc, List.singleton_append,
      fields_append, fields_append, fields_of_not_mem h.slash_not_mem, List.filter_append,
      List.filter_append]
    simp [hne, fields]
  · rw [if_neg (by simp [hbase, hslash]), fields_append, fields_of_not_mem h.slash_not_mem,
      List.filter_append]
    simp [hne]

/-- **A plain name looked up from a path is the last name on it.** -/
lemma pieces_join (h : IsPlain name) (hbase : base ≠ []) :
    pieces (join base name) = (fields slash base).filter (· != []) ++ [name] := by
  have hne : name ≠ [] := by
    rintro rfl
    exact absurd h.isNormal (by decide)
  have hends : endsInSlash (join base name) = false := by
    obtain ⟨front, heq, -⟩ := h.exists_join_eq base
    rw [endsInSlash, heq, List.getLast?_append_of_ne_nil _ hne]
    refine beq_eq_false_iff_ne.2 fun hlast => h.slash_not_mem ?_
    exact List.mem_of_getLast? hlast
  rw [pieces, filter_fields_join h hbase, hends]
  simp

/-! ### Walks that go on behind a name -/

/-- A walk that follows every link looks a name up whatever is behind it. -/
lemma IsLookedUp.of_followed {rest rest' : List Bytes} (h : IsLookedUp .followed name rest) :
    IsLookedUp .followed name rest' :=
  ⟨h.ne_nil, h.ne_dot, h.ne_dots, by rintro ⟨⟨⟩, -⟩, h.length_le⟩

/-- A directory with the name among its entries. -/
def Holds (fs : Filesystem) (directory : Inode) (name : Bytes) : Prop :=
  ∃ parent entries, fs.node? directory = some (.directory parent entries) ∧
    name ∈ entries.map (·.1)

/-- A name that stands for an inode is among the entries. -/
lemma holds_of_lookup {here parent i : Inode} {entries : List (Bytes × Inode)}
    (hdir : fs.node? here = some (.directory parent entries)) (hsome : entries.lookup name = some i) :
    fs.Holds here name := by
  refine ⟨parent, entries, hdir, ?_⟩
  by_contra hnot
  rw [lookup_eq_none_iff.2 hnot] at hsome
  cases hsome

/-- **A walk can be cut before its last name**: the names in front lead to where the last one is
looked up. -/
lemma Walks.cut {links : Nat} {here i : Inode} {front : List Bytes} {asDirectory : Bool}
    (h : Walks fs .followed links here (front ++ [name]) (.found i asDirectory)) :
    ∃ directory d n, Walks fs .followed links here front (.found directory d) ∧
      Walks fs .followed n directory [name] (.found i asDirectory) := by
  -- The induction is on the walk, for every way to write its names with one at the end.
  generalize hnames : front ++ [name] = names at h
  generalize hplace : Place.found i asDirectory = place at h
  induction h generalizing front with
  | arrive => exact absurd hnames (by simp)
  | slash =>
    obtain ⟨rfl, rfl⟩ : front = [] ∧ name = [] := by
      simpa using List.append_eq_singleton_iff.1 hnames
    cases hplace
    exact ⟨_, _, 0, .arrive, .slash⟩
  | miss => cases hplace
  | link _ _ _ _ hlast => cases hlast
  | stay hdir hfirst next ih =>
    subst hplace
    cases front with
    | nil =>
      cases hnames
      exact ⟨_, _, _, .arrive, .stay hdir hfirst next⟩
    | cons first front =>
      cases hnames
      obtain ⟨directory, d, n, hfront, hrest⟩ := ih rfl rfl
      rcases hfirst with ⟨rfl, -⟩ | hdot
      · by_cases hlast : front = []
        · -- what was an empty name between two slashes is now a slash at the end
          subst hlast
          cases hfront
          exact ⟨_, _, n, .slash, hrest⟩
        · exact ⟨directory, d, n, .stay hdir (.inl ⟨rfl, hlast⟩) hfront, hrest⟩
      · exact ⟨directory, d, n, .stay hdir (.inr hdot) hfront, hrest⟩
  | ascend hdir next ih =>
    subst hplace
    cases front with
    | nil =>
      cases hnames
      exact ⟨_, _, _, .arrive, .ascend hdir next⟩
    | cons first front =>
      cases hnames
      obtain ⟨directory, d, n, hfront, hrest⟩ := ih rfl rfl
      exact ⟨directory, d, n, .ascend hdir hfront, hrest⟩
  | follow hdir hname hsome hlink hlast next ih =>
    subst hplace
    cases front with
    | nil =>
      cases hnames
      exact ⟨_, _, _, .arrive, .follow hdir hname hsome hlink hlast next⟩
    | cons first front =>
      cases hnames
      obtain ⟨directory, d, n, hfront, hrest⟩ := ih (List.append_assoc _ _ _) rfl
      exact ⟨directory, d, n,
        .follow hdir hname.of_followed hsome hlink (by rintro ⟨-, ⟨⟩⟩) hfront, hrest⟩
  | enter hdir hname hsome hlink next ih =>
    subst hplace
    cases front with
    | nil =>
      cases hnames
      exact ⟨_, _, _, .arrive, .enter hdir hname hsome hlink next⟩
    | cons first front =>
      cases hnames
      obtain ⟨directory, d, n, hfront, hrest⟩ := ih rfl rfl
      exact ⟨directory, d, n, .enter hdir hname.of_followed hsome hlink hfront, hrest⟩

/-- **A walk that ends at a plain name has been through a directory that holds the name.** -/
lemma Walks.above (hplain : IsPlain name) {links : Nat} {here i : Inode} {front : List Bytes}
    {asDirectory : Bool}
    (h : Walks fs .followed links here (front ++ [name]) (.found i asDirectory)) :
    ∃ directory d, Walks fs .followed links here front (.found directory d) ∧
      fs.Holds directory name := by
  obtain ⟨⟨hnil, hdot⟩, hdots⟩ : (name ≠ [] ∧ name ≠ [dot]) ∧ name ≠ [dot, dot] := by
    simpa [isNormal] using hplain.isNormal
  obtain ⟨directory, d, n, hfront, hlast⟩ := h.cut
  refine ⟨directory, d, hfront, ?_⟩
  cases hlast with
  | slash => exact absurd rfl hnil
  | stay hdir hfirst next =>
    rcases hfirst with ⟨hempty, -⟩ | hempty
    · exact absurd hempty hnil
    · exact absurd hempty hdot
  | ascend hdir next => exact absurd rfl hdots
  | link _ _ _ _ hlast => cases hlast
  | follow hdir hname hsome => exact holds_of_lookup hdir hsome
  | enter hdir hname hsome => exact holds_of_lookup hdir hsome

/-- A walk that leads somewhere with a slash behind it leads there without the slash. -/
lemma Walks.of_append_slash {links : Nat} {here i : Inode} {names : List Bytes} {asDirectory : Bool}
    (h : Walks fs .followed links here (names ++ [[]]) (.found i asDirectory)) :
    ∃ d, Walks fs .followed links here names (.found i d) := by
  obtain ⟨directory, d, n, hfront, hlast⟩ := h.cut
  cases hlast with
  | slash => exact ⟨d, hfront⟩
  | stay hdir hfirst next =>
    rcases hfirst with ⟨-, hrest⟩ | hdot
    · exact absurd rfl hrest
    · cases hdot
  | link _ hname => exact absurd rfl hname.ne_nil
  | follow hdir hname => exact absurd rfl hname.ne_nil
  | enter hdir hname => exact absurd rfl hname.ne_nil

/-- A walk that leads to a directory goes on from there, if what is behind it needs no links. -/
lemma Walks.append {links : Nat} {here i parent : Inode} {names more : List Bytes}
    {entries : List (Bytes × Inode)} {asDirectory : Bool} {place : Place}
    (hi : fs.node? i = some (.directory parent entries)) (hmore : more ≠ [])
    (h : Walks fs .followed links here names (.found i asDirectory))
    (hnext : ∀ n, Walks fs .followed n i more place) :
    Walks fs .followed links here (names ++ more) place := by
  generalize hfound : Place.found i asDirectory = found at h
  induction h with
  | arrive =>
    cases hfound
    exact hnext _
  | slash =>
    cases hfound
    exact .stay hi (.inl ⟨rfl, hmore⟩) (hnext _)
  | miss => cases hfound
  | link _ _ _ _ hlast => cases hlast
  | stay hdir hfirst next ih =>
    refine .stay hdir (hfirst.imp_left ?_) (ih hfound)
    rintro ⟨rfl, -⟩
    exact ⟨rfl, by simp [hmore]⟩
  | ascend hdir next ih => exact .ascend hdir (ih hfound)
  | follow hdir hname hsome hlink hlast next ih =>
    refine .follow hdir hname.of_followed hsome hlink (by rintro ⟨-, ⟨⟩⟩) ?_
    have hbehind := ih hfound
    rw [List.append_assoc] at hbehind
    exact hbehind
  | enter hdir hname hsome hlink next ih =>
    exact .enter hdir hname.of_followed hsome hlink (ih hfound)

/-! ### Inodes -/

/-- A path leads to an inode when it holds no NUL and the inode exists there. -/
lemma inode_eq_ok_iff {path : Bytes} {i : Inode} :
    fs.inode path = .ok i ↔ nul ∉ path ∧ fs.existing path true = .ok i := by
  by_cases hnul : nul ∈ path
  · simp [inode, checked, hnul]
  · cases hexisting : fs.existing path true <;> simp [inode, checked, hnul, hexisting, Except.mapError]

/-- **What is above something that exists is a directory that holds its name.** -/
theorem holds_of_inode_join (hplain : IsPlain name) (hbase : base ≠ []) {i : Inode}
    (h : fs.inode (join base name) = .ok i) :
    ∃ directory, fs.inode base = .ok directory ∧ fs.Holds directory name := by
  obtain ⟨hnul, hexisting⟩ := inode_eq_ok_iff.1 h
  obtain ⟨asDirectory, hresolve, -⟩ := existing_eq_ok_iff.1 hexisting
  obtain ⟨-, hlength, hwalk⟩ := resolve_eq_ok_iff.1 hresolve
  have hstart : fs.start (join base name) fs.here = fs.start base fs.here := by
    rw [start, start, hplain.isAbsolute_join hbase]
  rw [pieces_join hplain hbase, hstart] at hwalk
  obtain ⟨directory, d, hfront, hholds⟩ := hwalk.above hplain
  obtain ⟨parent, entries, hdir, -⟩ := id hholds
  -- the base may have a slash at its end, which asks for the directory that is there
  obtain ⟨d', hbaseWalk⟩ : ∃ d', Walks fs .followed maxLinks (fs.start base fs.here) (pieces base)
      (.found directory d') := by
    rcases pieces_cases base with heq | heq
    · exact ⟨d, heq ▸ hfront⟩
    · exact ⟨true, heq ▸ hfront.append hdir (List.cons_ne_nil _ _) fun _ => .slash⟩
  obtain ⟨front, heq, -⟩ := hplain.exists_join_eq base
  have hlengthBase : base.length < maxPath := by
    rw [heq, List.length_append, List.length_append] at hlength
    omega
  have hnulBase : nul ∉ base := by
    rw [heq, List.mem_append, List.mem_append] at hnul
    exact fun hmem => hnul (.inl (.inl hmem))
  have hresolveBase := resolve_eq_ok_iff.2 ⟨hbase, hlengthBase, hbaseWalk⟩
  refine ⟨directory, inode_eq_ok_iff.2 ⟨hnulBase, ?_⟩, hholds⟩
  exact existing_eq_ok_iff.2 ⟨d', hresolveBase, fun _ => ⟨parent, entries, hdir⟩⟩

/-- **A name in a directory leads to what it stands for**, unless that is a link or a limit is
exceeded. -/
theorem inode_join_of_lookup (hplain : IsPlain name) {home i parent : Inode}
    {entries : List (Bytes × Inode)} (hhome : fs.inode base = .ok home)
    (hdir : fs.node? home = some (.directory parent entries)) (hsome : entries.lookup name = some i)
    (hlink : ∀ target, fs.node? i ≠ some (.symlink target)) (hnul : nul ∉ name)
    (hlong : name.length ≤ maxName) (hlength : (join base name).length < maxPath) :
    fs.inode (join base name) = .ok i := by
  obtain ⟨hnulBase, hexisting⟩ := inode_eq_ok_iff.1 hhome
  obtain ⟨asDirectory, hresolve, -⟩ := existing_eq_ok_iff.1 hexisting
  obtain ⟨hbase, -, hwalk⟩ := resolve_eq_ok_iff.1 hresolve
  obtain ⟨front, heq, hfront⟩ := hplain.exists_join_eq base
  obtain ⟨⟨hnil, hdot⟩, hdots⟩ : (name ≠ [] ∧ name ≠ [dot]) ∧ name ≠ [dot, dot] := by
    simpa [isNormal] using hplain.isNormal
  have hlookedUp : IsLookedUp .followed name [] := ⟨hnil, hdot, hdots, by rintro ⟨⟨⟩, -⟩, hlong⟩
  obtain ⟨d, habove⟩ : ∃ d, Walks fs .followed maxLinks (fs.start base fs.here)
      ((fields slash base).filter (· != [])) (.found home d) := by
    rcases pieces_cases base with heq | heq
    · exact ⟨asDirectory, heq ▸ hwalk⟩
    · exact (heq ▸ hwalk).of_append_slash
  have hwalkName := habove.append hdir (List.cons_ne_nil name [])
    fun n => .enter hdir hlookedUp hsome hlink .arrive
  have hstart : fs.start (join base name) fs.here = fs.start base fs.here := by
    rw [start, start, hplain.isAbsolute_join hbase]
  rw [← pieces_join hplain hbase, ← hstart] at hwalkName
  have hne : join base name ≠ [] := by
    rw [heq]
    simp [hbase]
  have hnulName : nul ∉ join base name := by
    rw [heq]
    rcases hfront with rfl | rfl
    · simp [hnulBase, hnul]
    · simp [hnulBase, hnul, show nul ≠ slash by decide]
  refine inode_eq_ok_iff.2 ⟨hnulName, existing_eq_ok_iff.2 ⟨false, ?_, by rintro ⟨⟩⟩⟩
  exact resolve_eq_ok_iff.2 ⟨hne, hlength, hwalkName⟩

/-- A directory that holds a name is one. -/
lemma isDirectory_of_holds {path : Bytes} {directory : Inode} (h : fs.inode path = .ok directory)
    (hholds : fs.Holds directory name) : fs.isDirectory path = .ok true := by
  obtain ⟨parent, entries, hdir, -⟩ := hholds
  rw [isDirectory, h]
  simp only [Except.map, hdir]

/-- A directory that holds a name gives it when it is read. -/
lemma exists_readDirectory_of_holds {path : Bytes} {directory : Inode}
    (h : fs.inode path = .ok directory) (hholds : fs.Holds directory name) :
    ∃ names, fs.readDirectory path = .ok names ∧ name ∈ names := by
  obtain ⟨parent, entries, hdir, hmem⟩ := hholds
  exact ⟨entries.map (·.1), by simp only [readDirectory, h, hdir], hmem⟩

end Filesystem

end ContainerEntry
