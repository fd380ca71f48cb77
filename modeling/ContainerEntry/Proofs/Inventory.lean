import Mathlib
import ContainerEntry.Inventory
import ContainerEntry.Proofs.Container.Containment
import ContainerEntry.Proofs.Filesystem.Below
import ContainerEntry.Proofs.Filesystem.Names
import ContainerEntry.Proofs.Text.Utf8

/-!
# What is listed is what opens

A listing goes through the entries of the user's directory and shows the text of each name; an
opening goes to the configuration file of a name.  They meet in the middle:

* **What is listed opens** (`eq_of_opened?`): only an entry whose name is a container's comes through,
  and such a name is its own text (`display_eq_of_isName`), since what stands for a broken chunk is
  no letter, digit, hyphen or underscore.
* **What opens is listed** (`exists_entry_of_openNamed`): the walk to a configuration file has been
  through the user's directory, which holds the name, and through the container's, which is a
  directory; and a container's name has no full stop, so it is not that of one still being made.
* **The order does not show** (`list_eq_of_sameButOrder`): names are distinct, so sorting leaves one
  order only.

`lists_what_opens` puts them together.
-/

namespace ContainerEntry

open Bytes ContainerEntry.Path Filesystem

namespace Container

variable {files : Filesystem} {dataDir user name : Bytes} {c : Container}

/-! ### Openings -/

/-- A container's name is made of the bytes of names. -/
lemma isNameByte_of_mem {b : UInt8} (hname : isName name) (hb : b ∈ name) : isNameByte b := by
  simp only [isName, Bool.and_eq_true, List.all_eq_true] at hname
  exact hname.2 b hb

/-- A container's name is ASCII. -/
lemma isUtf8_of_isName (h : isName name) : Text.isUtf8 name := by
  refine Text.isUtf8_of_ascii fun b hb => ?_
  have hbyte := isNameByte_of_mem h hb
  simp only [isNameByte, isAlnum, isAlpha, isUpper, isLower, isDigit, Bool.or_eq_true,
    Bool.and_eq_true, decide_eq_true_eq] at hbyte
  grind

/-- A text that is a container's name is the name it is the text of. -/
lemma display_eq_of_isName {entry : Bytes} (h : isName (Text.display entry)) :
    Text.display entry = entry := by
  apply Text.display_eq_self
  refine List.all_eq_true.2 fun chunk hchunk => ?_
  cases chunk with
  | scalar b => rfl
  | broken b =>
    have hmem : (0xef : UInt8) ∈ Text.display entry :=
      List.mem_flatMap.2 ⟨.broken b, hchunk, List.mem_cons_self⟩
    exact absurd (isNameByte_of_mem h hmem) (by decide)

/-- No container has the name of one that is still being made. -/
lemma not_isSuffixOf_of_isName (h : isName name) :
    Inventory.stageSuffix.isSuffixOf name = false := by
  rw [← Bool.not_eq_true, List.isSuffixOf_iff_suffix]
  intro hsuffix
  have hdot : dot ∈ name := hsuffix.subset (by decide)
  exact absurd (isNameByte_of_mem h hdot) (by decide)

/-- A container that is opened has the name by which it was looked for, and its configuration file
is there. -/
lemma exists_of_openPath {path : Bytes} (h : openPath files path name = .ok c) :
    c.name = name ∧ ∃ i, files.inode (join path configName) = .ok i := by
  unfold openPath Settings.readText Filesystem.readFile at h
  cases hinode : files.inode (join path configName) with
  | error fault =>
    simp only [hinode] at h
    split_ifs at h
  | ok i =>
    refine ⟨?_, i, rfl⟩
    dsimp only at h
    split at h
    · split_ifs at h
    · split at h
      · cases h
      · cases h
        rfl

/-- A container that is opened has the name by which it was looked for. -/
lemma name_of_openNamed (h : openNamed files dataDir user name = .ok c) : c.name = name := by
  unfold openNamed at h
  split_ifs at h
  exact (exists_of_openPath h).1

/-- **What opens has an entry in the user's directory**, and the entry is a directory. -/
theorem exists_entry_of_openNamed (hbase : join dataDir user ≠ [])
    (h : openNamed files dataDir user name = .ok c) :
    ∃ entries, files.readDirectory (join dataDir user) = .ok entries ∧ name ∈ entries ∧
      files.isDirectory (directory dataDir user name) = .ok true := by
  obtain ⟨hname, -⟩ := of_openNamed h
  rw [openNamed, if_pos hname] at h
  obtain ⟨-, i, hconfig⟩ := exists_of_openPath h
  have hplain := isPlain_of_isName hname
  have hconfigName : IsPlain configName := ⟨by decide, by decide⟩
  have hne : directory dataDir user name ≠ [] := by
    obtain ⟨front, heq, -⟩ := hplain.exists_join_eq (join dataDir user)
    rw [directory, heq]
    simp [hbase]
  obtain ⟨container, hinode, hholds⟩ := holds_of_inode_join hconfigName hne hconfig
  obtain ⟨home, hhome, hentry⟩ := holds_of_inode_join hplain hbase hinode
  obtain ⟨entries, hread, hmem⟩ := exists_readDirectory_of_holds hhome hentry
  exact ⟨entries, hread, hmem, isDirectory_of_holds hinode hholds⟩

/-- The order of names does not count for an opening. -/
lemma openNamed_eq {files' : Filesystem} (h : files.SameButOrder files')
    (hfiles : files.HasDistinctNames) :
    openNamed files' dataDir user name = openNamed files dataDir user name := by
  simp only [openNamed, openPath, Settings.readText, h.readFile_eq hfiles]

end Container

namespace Inventory

open Container

variable {files : Filesystem} {dataDir user : Bytes} {entries : List Bytes}
  {containers : List Container}

/-! ### Entries -/

/-- What is seen of an entry: the container it opens as, or none; or that it cannot be looked at. -/
def look (files : Filesystem) (dataDir user entry : Bytes) : Except Failure (Option Container) :=
  if stageSuffix.isSuffixOf (Text.display entry) then .ok none
  else match files.isDirectory (join (join dataDir user) entry) with
    | .error fault => .error (.io fault)
    | .ok false => .ok none
    | .ok true => .ok (openNamed files dataDir user (Text.display entry)).toOption

/-- The container of an entry, if it is one. -/
def opened? (files : Filesystem) (dataDir user entry : Bytes) : Option Container :=
  match look files dataDir user entry with
  | .error _ => none
  | .ok found => found

/-- A listing looks at its entries one after another. -/
lemma collect_cons (entry : Bytes) (rest : List Bytes) :
    collect files dataDir user (entry :: rest) =
      match look files dataDir user entry with
      | .error failure => .error failure
      | .ok none => collect files dataDir user rest
      | .ok (some c) => (collect files dataDir user rest).map (c :: ·) := by
  rw [collect, look]
  split_ifs
  · rfl
  cases files.isDirectory (join (join dataDir user) entry) with
  | error fault => rfl
  | ok answer =>
    cases answer with
    | false => rfl
    | true => cases openNamed files dataDir user (Text.display entry) <;> rfl

/-- **A listing comes to an end when every entry can be looked at, and it has the containers of the
entries.** -/
lemma collect_eq_ok_iff : collect files dataDir user entries = .ok containers ↔
    (∀ entry ∈ entries, ∃ found, look files dataDir user entry = .ok found) ∧
      containers = entries.filterMap (opened? files dataDir user) := by
  induction entries generalizing containers with
  | nil =>
    rw [collect, Except.ok.injEq, eq_comm]
    exact (and_iff_right (List.forall_mem_nil _)).symm
  | cons entry rest ih =>
    rw [collect_cons, List.forall_mem_cons, List.filterMap_cons, opened?]
    cases look files dataDir user entry with
    | error failure => simp
    | ok found =>
      cases found with
      | none => simpa using ih
      | some c =>
        constructor
        · intro h
          obtain ⟨others, hothers, rfl⟩ := exists_of_map_eq_ok h
          obtain ⟨hlook, rfl⟩ := ih.1 hothers
          exact ⟨⟨⟨some c, rfl⟩, hlook⟩, rfl⟩
        · rintro ⟨⟨-, hlook⟩, rfl⟩
          rw [ih.2 ⟨hlook, rfl⟩]
          rfl

variable {entry : Bytes} {c : Container}

/-- **What an entry opens as has the entry's name, and it is what opens by that name.** -/
lemma eq_of_opened? (h : opened? files dataDir user entry = some c) :
    c.name = entry ∧ openNamed files dataDir user entry = .ok c := by
  unfold opened? look at h
  split at h
  · cases h
  next found hlook =>
  split_ifs at hlook
  · cases hlook
    cases h
  split at hlook
  · cases hlook
  · cases hlook
    cases h
  cases hopen : openNamed files dataDir user (Text.display entry) with
  | error failure =>
    rw [hopen] at hlook
    cases hlook
    cases h
  | ok opened =>
    rw [hopen] at hlook
    cases hlook
    cases h
    rw [display_eq_of_isName (of_openNamed hopen).1] at hopen
    exact ⟨name_of_openNamed hopen, hopen⟩

/-- An entry that is a directory and opens is seen as what it opens as. -/
lemma opened?_of_openNamed
    (hdirectory : files.isDirectory (directory dataDir user entry) = .ok true)
    (h : openNamed files dataDir user entry = .ok c) :
    opened? files dataDir user entry = some c := by
  obtain ⟨hname, -⟩ := of_openNamed h
  have hdisplay := Text.display_eq_self (isUtf8_of_isName hname)
  rw [directory] at hdirectory
  rw [opened?, look, hdisplay, not_isSuffixOf_of_isName hname, hdirectory, h]
  rfl

/-- The containers of entries have different names, if the entries do. -/
lemma names_sublist (entries : List Bytes) :
    ((entries.filterMap (opened? files dataDir user)).map (·.name)).Sublist entries := by
  induction entries with
  | nil => exact .slnil
  | cons entry rest ih =>
    cases hopened : opened? files dataDir user entry with
    | none =>
      rw [List.filterMap_cons_none hopened]
      exact ih.cons entry
    | some c =>
      rw [List.filterMap_cons_some hopened, List.map_cons, (eq_of_opened? hopened).1]
      exact ih.cons_cons entry

/-! ### The order -/

/-- Sorting keeps the containers. -/
lemma sorted_perm (containers : List Container) : (sorted containers).Perm containers :=
  List.mergeSort_perm containers _

/-- Containers of different names are sorted into the ascending order of their names. -/
lemma pairwise_sorted (h : (containers.map (·.name)).Nodup) :
    (sorted containers).Pairwise fun a b => a.name < b.name := by
  have hle : (sorted containers).Pairwise fun a b => decide (a.name ≤ b.name) := by
    apply List.pairwise_mergeSort
    · intro a b c hab hbc
      rw [decide_eq_true_eq] at hab hbc ⊢
      exact List.le_trans hab hbc
    · intro a b
      rw [Bool.or_eq_true, decide_eq_true_eq, decide_eq_true_eq]
      exact List.le_total _ _
  have hne : (sorted containers).Pairwise fun a b => a.name ≠ b.name := by
    have hnodup := ((sorted_perm containers).map (·.name)).nodup_iff.2 h
    exact List.pairwise_map.1 hnodup
  refine (hle.and hne).imp fun hab => ?_
  exact Std.lt_of_le_of_ne (of_decide_eq_true hab.1) hab.2

/-- Containers of the same entries are sorted into the same order. -/
lemma sorted_eq_of_perm {others : List Container} (h : (containers.map (·.name)).Nodup)
    (hperm : containers.Perm others) : sorted others = sorted containers := by
  have hothers : (others.map (·.name)).Nodup := (hperm.map (·.name)).nodup_iff.1 h
  apply List.Perm.eq_of_pairwise _ (pairwise_sorted hothers) (pairwise_sorted h)
  · exact (sorted_perm others).trans (hperm.symm.trans (sorted_perm containers).symm)
  · intro a b _ _ hab hba
    exact absurd hba (List.lt_asymm hab)

/-- Nothing is seen differently where names are in another order. -/
lemma look_eq {files' : Filesystem} (h : files.SameButOrder files')
    (hfiles : files.HasDistinctNames) : look files' dataDir user = look files dataDir user := by
  funext entry
  rw [look, look, h.isDirectory_eq hfiles, openNamed_eq h hfiles]

/-! ### Listings -/

/-- The empty path cannot be read. -/
lemma readDirectory_nil (files : Filesystem) :
    files.readDirectory [] = .error (.os .noEntry) := rfl

/-- A path is empty only if it was put together from nothing. -/
lemma join_eq_nil_iff {base more : Bytes} : join base more = [] ↔ base = [] ∧ more = [] := by
  unfold join
  split_ifs with habsolute hslash
  · refine iff_of_false ?_ ?_
    · rintro rfl
      cases habsolute
    · rintro ⟨-, rfl⟩
      cases habsolute
  · exact List.append_eq_nil_iff
  · refine iff_of_false (by simp) ?_
    rintro ⟨rfl, -⟩
    exact hslash rfl

/-- A listing is that of the entries of the user's directory, or it is empty because there is no
such directory. -/
lemma list_cases (h : list files dataDir user = .ok containers) :
    (∃ fault, files.readDirectory (join dataDir user) = .error fault ∧ containers = []) ∨
      ∃ entries, files.readDirectory (join dataDir user) = .ok entries ∧
        (∀ entry ∈ entries, ∃ found, look files dataDir user entry = .ok found) ∧
        containers = sorted (entries.filterMap (opened? files dataDir user)) := by
  unfold list at h
  split at h
  · next fault hread =>
    split_ifs at h
    cases h
    exact .inl ⟨fault, hread, rfl⟩
  · next entries hread =>
    obtain ⟨found, hcollect, rfl⟩ := exists_of_map_eq_ok h
    obtain ⟨hlook, rfl⟩ := collect_eq_ok_iff.1 hcollect
    exact .inr ⟨entries, hread, hlook, rfl⟩

/-- A directory that is read gives different names. -/
lemma nodup_of_readDirectory (hfiles : files.HasDistinctNames) {path : Bytes}
    (h : files.readDirectory path = .ok entries) : entries.Nodup := by
  unfold readDirectory at h
  split at h
  · cases h
  split at h
  · next hdir =>
    cases h
    exact hfiles.nodup hdir
  · cases h

/-- The containers of a directory have different names. -/
lemma nodup_names (hfiles : files.HasDistinctNames) {path : Bytes}
    (h : files.readDirectory path = .ok entries) (dataDir user : Bytes) :
    ((entries.filterMap (opened? files dataDir user)).map (·.name)).Nodup :=
  (names_sublist entries).nodup (nodup_of_readDirectory hfiles h)

/-- The names of a listing are in ascending order. -/
lemma pairwise_names (hfiles : files.HasDistinctNames)
    (h : list files dataDir user = .ok containers) :
    (containers.map (·.name)).Pairwise (· < ·) := by
  rw [List.pairwise_map]
  rcases list_cases h with ⟨fault, -, rfl⟩ | ⟨entries, hread, -, rfl⟩
  · exact .nil
  · exact pairwise_sorted (nodup_names hfiles hread dataDir user)

/-- A container is listed if and only if it opens by its name, in a directory with a path. -/
lemma mem_list_iff (h : list files dataDir user = .ok containers) :
    c ∈ containers ↔
      (dataDir ≠ [] ∨ user ≠ []) ∧ openNamed files dataDir user c.name = .ok c := by
  rw [← not_and_or, ← join_eq_nil_iff]
  rcases list_cases h with ⟨fault, hread, rfl⟩ | ⟨entries, hread, -, rfl⟩
  · refine iff_of_false List.not_mem_nil ?_
    rintro ⟨hbase, hopen⟩
    obtain ⟨entries, hread', -⟩ := exists_entry_of_openNamed hbase hopen
    cases hread.symm.trans hread'
  rw [(sorted_perm _).mem_iff, List.mem_filterMap]
  constructor
  · rintro ⟨entry, -, hopened⟩
    obtain ⟨rfl, hopen⟩ := eq_of_opened? hopened
    refine ⟨fun hbase => ?_, hopen⟩
    rw [hbase, readDirectory_nil] at hread
    cases hread
  · rintro ⟨hbase, hopen⟩
    obtain ⟨entries', hread', hmem, hdirectory⟩ := exists_entry_of_openNamed hbase hopen
    cases hread.symm.trans hread'
    exact ⟨c.name, hmem, opened?_of_openNamed hdirectory hopen⟩

/-- A listing is the same where names are in another order. -/
lemma list_eq_of_sameButOrder {files' : Filesystem} (hfiles : files.HasDistinctNames)
    (horder : files.SameButOrder files') (h : list files dataDir user = .ok containers) :
    list files' dataDir user = .ok containers := by
  unfold list at h ⊢
  split at h
  · next fault hread =>
    rw [horder.readDirectory_eq_error hfiles hread]
    exact h
  next entries hread =>
  obtain ⟨entries', hread', hperm⟩ := horder.readDirectory_perm hfiles hread
  obtain ⟨found, hcollect, rfl⟩ := exists_of_map_eq_ok h
  obtain ⟨hlook, rfl⟩ := collect_eq_ok_iff.1 hcollect
  have hopened : opened? files' dataDir user = opened? files dataDir user := by
    funext entry
    rw [opened?, opened?, look_eq horder hfiles]
  have hcollect' : collect files' dataDir user entries' =
      .ok (entries'.filterMap (opened? files dataDir user)) := by
    refine collect_eq_ok_iff.2 ⟨fun entry hentry => ?_, by rw [hopened]⟩
    rw [look_eq horder hfiles]
    exact hlook entry (hperm.mem_iff.2 hentry)
  have hsorted := sorted_eq_of_perm (nodup_names hfiles hread dataDir user)
    (hperm.filterMap (opened? files dataDir user))
  rw [hread']
  show (collect files' dataDir user entries').map sorted = _
  rw [hcollect']
  exact congrArg Except.ok hsorted

/-- **A listing has what opens**, for every tree in which no directory has a name twice, every data
directory and every user.  When it succeeds,

* the names are in strictly ascending order, so there is none twice;
* a name is listed if and only if opening by the name succeeds, whatever else is in the directory;
* each container that is listed is the one that opens by its name; and
* every order of the names in the directories gives the same listing.

There is one path for a user's directory that cannot be read, the empty one, which comes from an
empty data directory and an empty user.  Its listing is empty, though a name looked up from it is
looked up from the working directory.  Settings that are loaded have a data directory
(`Settings.dataDir_ne_nil_of_loadOrStandard`). -/
theorem lists_what_opens (hfiles : files.HasDistinctNames)
    (h : list files dataDir user = .ok containers) :
    (containers.map (·.name)).Pairwise (· < ·) ∧
      (∀ name, (∃ c ∈ containers, c.name = name) ↔
        (dataDir ≠ [] ∨ user ≠ []) ∧ ∃ c, openNamed files dataDir user name = .ok c) ∧
      (∀ c ∈ containers, openNamed files dataDir user c.name = .ok c) ∧
      ∀ files', files.SameButOrder files' → list files' dataDir user = .ok containers := by
  refine ⟨pairwise_names hfiles h, fun name => ?_, fun c hc => ((mem_list_iff h).1 hc).2,
    fun files' horder => list_eq_of_sameButOrder hfiles horder h⟩
  constructor
  · rintro ⟨c, hc, rfl⟩
    obtain ⟨hpath, hopen⟩ := (mem_list_iff h).1 hc
    exact ⟨hpath, c, hopen⟩
  · rintro ⟨hpath, c, hopen⟩
    obtain rfl := name_of_openNamed hopen
    exact ⟨c, (mem_list_iff h).2 ⟨hpath, hopen⟩, rfl⟩

/-- A user's directory with two containers, one of them behind a link, and with a container that is
still being made, one without a text for its name, one whose configuration is broken, and a file. -/
def crowdedHome : Filesystem where
  nodes := #[.directory 0 [("data", 1)], .directory 0 [("user", 2)],
    .directory 1 [("web", 3), ("new.stage", 3), ([0xff], 3), ("dev", 4), ("notes", 5), ("old", 6)],
    .directory 2 [("config.json", 7)], .symlink "web", .file [] 0o644,
    .directory 2 [("config.json", 5)], .file "{}" 0o644]
  here := 0

/-- The two containers are listed, in the order of their names, and nothing else opens. -/
theorem lists_what_opens_crowdedHome :
    crowdedHome.HasDistinctNames ∧
      list crowdedHome "/data" "user" =
        .ok [⟨"dev", "/data/user/dev", ⟨false⟩⟩, ⟨"web", "/data/user/web", ⟨false⟩⟩] ∧
      ∀ name, (∃ c, openNamed crowdedHome "/data" "user" name = .ok c) ↔
        name = "dev" ∨ name = "web" := by
  have hfiles : crowdedHome.HasDistinctNames := by decide
  let dev : Container := ⟨"dev", "/data/user/dev", ⟨false⟩⟩
  let web : Container := ⟨"web", "/data/user/web", ⟨false⟩⟩
  have hunsorted : list crowdedHome "/data" "user" = .ok (sorted [web, dev]) := by rfl
  have hsorted : sorted [web, dev] = [dev, web] := by
    rw [sorted_eq_of_perm (by decide) (.swap web dev [])]
    exact List.mergeSort_of_pairwise (by decide)
  have hlist : list crowdedHome "/data" "user" = .ok [dev, web] := by rw [hunsorted, hsorted]
  refine ⟨hfiles, hlist, fun name => ?_⟩
  obtain ⟨-, hnames, -, -⟩ := lists_what_opens hfiles hlist
  have hpath : Bytes.ofString "/data" ≠ [] ∨ Bytes.ofString "user" ≠ [] := .inl (by decide)
  rw [← and_iff_right hpath (b := ∃ c, openNamed crowdedHome "/data" "user" name = .ok c),
    ← hnames name]
  simp [dev, web, eq_comm]

/-- A working directory with a container in it. -/
def containerHere : Filesystem where
  nodes := #[.directory 0 [("dev", 1)], .directory 0 [("config.json", 2)], .file "{}" 0o644]
  here := 0

/-- From the empty path nothing is listed, and yet the container in the working directory opens. -/
theorem unlisted_opens_from_nowhere :
    containerHere.HasDistinctNames ∧ list containerHere [] [] = .ok [] ∧
      openNamed containerHere [] [] "dev" = .ok ⟨"dev", "dev", ⟨false⟩⟩ :=
  ⟨by decide, rfl, rfl⟩

end Inventory

end ContainerEntry
