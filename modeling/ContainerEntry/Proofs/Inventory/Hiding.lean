import Mathlib
import ContainerEntry.Proofs.Filesystem.Entries
import ContainerEntry.Proofs.Inventory

/-!
# Whether an entry hides the others

A listing looks at every entry of the user's directory, and it fails at the first that leads
nowhere.  So one entry can hide all containers, and which entries can is the whole question.

* **A listing has all containers if and only if every entry leads somewhere** (`listsAll_iff`), but
  for the entries of containers that are still being made, which are not looked at.
* **Only a link can lead nowhere** (`allSeen_of_no_links`), as long as names and paths keep to their
  limits: files, directories with or without a configuration, and names of any bytes are passed
  over.
* **An entry that is no container does not matter** (`listAlike_iff`), if every entry leads
  somewhere with it and without it, and no container opens through it.  The latter holds where
  neither a link nor the way to the directory has its name (`openNamed_of_isAside`).

`hides_nothing_iff` puts them together.
-/

namespace ContainerEntry

open Bytes ContainerEntry.Path Filesystem

namespace Container

variable {less more : Filesystem} {home : Inode} {dataDir user name entry : Bytes} {c : Container}

/-! ### What opens with an entry more and without it -/

/-- What opens where a tree carries the walk to its configuration opens there. -/
lemma openNamed_of_carries {reached : Inode → Prop} {named : Bytes → Prop}
    {files files' : Filesystem} (h : Carries reached named files files')
    (hpath : ∀ piece ∈ pieces (join (directory dataDir user name) configName), named piece)
    (hopen : openNamed files dataDir user name = .ok c) :
    openNamed files' dataDir user name = .ok c := by
  unfold openNamed openPath Settings.readText at hopen ⊢
  split_ifs at hopen ⊢
  dsimp only at hopen ⊢
  cases hread : files.readFile (join (directory dataDir user name) configName) with
  | error fault =>
    simp only [hread] at hopen
    split_ifs at hopen
  | ok content =>
    rw [h.readFile hpath hread]
    simpa only [hread] using hopen

/-- What opens opens when there is an entry more. -/
lemma openNamed_of_less (h : AddsEntry home entry less more)
    (hopen : openNamed less dataDir user name = .ok c) :
    openNamed more dataDir user name = .ok c :=
  openNamed_of_carries h.carries_less (fun _ _ => trivial) hopen

/-- Neither a link nor the way to a user's containers and their configurations has the name. -/
structure IsAside (files : Filesystem) (dataDir user entry : Bytes) : Prop where
  /-- No link leads through it. -/
  links : files.LinksAvoid entry
  /-- The user's directory is not reached through it. -/
  home : entry ∉ fields slash (join dataDir user)
  /-- It is not the name of a configuration. -/
  config : entry ≠ configName

/-- The way to an entry beside another does not go through it. -/
lemma IsAside.ne_of_mem_pieces {files : Filesystem} (h : IsAside files dataDir user entry)
    (hbase : join dataDir user ≠ []) (hplain : IsPlain name) (hname : name ≠ entry) :
    ∀ piece ∈ pieces (directory dataDir user name), piece ≠ entry := by
  rintro piece hpiece rfl
  rw [directory, pieces_join hplain hbase, List.mem_append, List.mem_singleton] at hpiece
  rcases hpiece with hfront | rfl
  · exact h.home (List.mem_filter.1 hfront).1
  · exact hname rfl

/-- **What opens beside an entry opens without it**, if no link leads through it. -/
lemma openNamed_of_isAside (h : AddsEntry home entry less more)
    (haside : IsAside more dataDir user entry) (hbase : join dataDir user ≠ [])
    (hname : name ≠ entry) (hopen : openNamed more dataDir user name = .ok c) :
    openNamed less dataDir user name = .ok c := by
  have hplain := isPlain_of_isName (of_openNamed hopen).1
  have hconfig : IsPlain configName := ⟨by decide, by decide⟩
  have hne : directory dataDir user name ≠ [] := by
    obtain ⟨front, heq, -⟩ := hplain.exists_join_eq (join dataDir user)
    rw [directory, heq]
    simp [hbase]
  apply openNamed_of_carries (h.carries_more haside.links) _ hopen
  rintro piece hpiece rfl
  rw [pieces_join hconfig hne, directory, filter_fields_join hplain hbase, List.mem_append,
    List.mem_append, List.mem_singleton, List.mem_singleton] at hpiece
  rcases hpiece with (hfront | rfl) | rfl
  · exact haside.home (List.mem_filter.1 hfront).1
  · exact hname rfl
  · exact haside.config rfl

end Container

namespace Inventory

open Container

variable {files less more : Filesystem} {home : Inode} {dataDir user entry : Bytes}
  {entries rest : List Bytes}

/-! ### Entries that lead somewhere -/

/-- Every entry leads somewhere, but for those of containers that are still being made. -/
def AllSeen (files : Filesystem) (dataDir user : Bytes) (entries : List Bytes) : Prop :=
  ∀ entry ∈ entries, stageSuffix.isSuffixOf (Text.display entry) = false →
    ∃ i, files.inode (directory dataDir user entry) = .ok i

/-- An entry can be looked at if and only if it leads somewhere, or is not looked at. -/
lemma exists_look_iff : (∃ found, look files dataDir user entry = .ok found) ↔
    (stageSuffix.isSuffixOf (Text.display entry) = false →
      ∃ i, files.inode (directory dataDir user entry) = .ok i) := by
  rw [look, ← directory, isDirectory]
  cases stageSuffix.isSuffixOf (Text.display entry) with
  | true => simp
  | false =>
    cases files.inode (directory dataDir user entry) with
    | error fault => simp [Except.map]
    | ok i =>
      refine iff_of_true ?_ fun _ => ⟨i, rfl⟩
      rw [if_neg Bool.false_ne_true, Except.map]
      split
      · next hfault => cases hfault
      · exact ⟨_, rfl⟩
      · exact ⟨_, rfl⟩

/-- The listing of a directory that is read succeeds if and only if every entry leads somewhere, and
then has the containers of the entries. -/
lemma list_eq_ok_iff (hread : files.readDirectory (join dataDir user) = .ok entries)
    {containers : List Container} :
    list files dataDir user = .ok containers ↔ AllSeen files dataDir user entries ∧
      containers = sorted (entries.filterMap (opened? files dataDir user)) := by
  have hseen : AllSeen files dataDir user entries ↔
      ∀ entry ∈ entries, ∃ found, look files dataDir user entry = .ok found := by
    simp only [AllSeen, exists_look_iff]
  rw [list, hread, hseen]
  constructor
  · intro h
    obtain ⟨found, hcollect, rfl⟩ := exists_of_map_eq_ok h
    obtain ⟨hlook, rfl⟩ := collect_eq_ok_iff.1 hcollect
    exact ⟨hlook, rfl⟩
  · rintro ⟨hlook, rfl⟩
    exact congrArg (Except.map sorted) (collect_eq_ok_iff.2 ⟨hlook, rfl⟩)

/-- A directory that is read has a path. -/
lemma join_ne_nil (hread : files.readDirectory (join dataDir user) = .ok entries) :
    join dataDir user ≠ [] := by
  intro hbase
  rw [hbase, readDirectory_nil] at hread
  cases hread

/-- The listing succeeds and has every container that opens. -/
def ListsAll (files : Filesystem) (dataDir user : Bytes) : Prop :=
  ∃ containers, list files dataDir user = .ok containers ∧
    ∀ name c, openNamed files dataDir user name = .ok c → c ∈ containers

/-- **A listing has all containers if and only if every entry leads somewhere.** -/
lemma listsAll_iff (hread : files.readDirectory (join dataDir user) = .ok entries) :
    ListsAll files dataDir user ↔ AllSeen files dataDir user entries := by
  constructor
  · rintro ⟨containers, hlist, -⟩
    exact ((list_eq_ok_iff hread).1 hlist).1
  · intro hseen
    have hlist := (list_eq_ok_iff hread).2 ⟨hseen, rfl⟩
    refine ⟨_, hlist, fun name c hopen => (mem_list_iff hlist).2 ⟨?_, ?_⟩⟩
    · rw [← not_and_or, ← join_eq_nil_iff]
      exact join_ne_nil hread
    · rwa [name_of_openNamed hopen]

/-- An entry as the system takes it, that is no link. -/
structure IsNoLink (files : Filesystem) (home : Inode) (dataDir user entry : Bytes) : Prop where
  /-- It is one plain name without NULs. -/
  plain : IsPlain entry
  /-- It holds no NUL. -/
  nul_not_mem : nul ∉ entry
  /-- It is not too long. -/
  length_le : entry.length ≤ maxName
  /-- Its path is not too long. -/
  path_lt : (directory dataDir user entry).length < maxPath
  /-- What it stands for is no link. -/
  no_link : ∀ parent entries i, files.node? home = some (.directory parent entries) →
    entries.lookup entry = some i → ∀ target, files.node? i ≠ some (.symlink target)

/-- **Only a link can lead nowhere.** -/
lemma allSeen_of_no_links (hhome : files.inode (join dataDir user) = .ok home)
    (hread : files.readDirectory (join dataDir user) = .ok entries)
    (h : ∀ entry ∈ entries, IsNoLink files home dataDir user entry) :
    AllSeen files dataDir user entries := by
  intro entry hentry _
  have hnoLink := h entry hentry
  unfold readDirectory at hread
  simp only [hhome] at hread
  split at hread
  · next parent found hdir =>
    cases hread
    obtain ⟨i, hsome⟩ : ∃ i, found.lookup entry = some i := by
      rw [← Option.isSome_iff_exists, ← Option.ne_none_iff_isSome]
      intro hnone
      exact lookup_eq_none_iff.1 hnone hentry
    exact ⟨i, inode_join_of_lookup hnoLink.plain hhome hdir hsome
      (hnoLink.no_link parent found i hdir hsome) hnoLink.nul_not_mem hnoLink.length_le
      hnoLink.path_lt⟩
  · cases hread

/-! ### An entry more -/

/-- Two trees give one and the same listing, and it succeeds. -/
def ListAlike (less more : Filesystem) (dataDir user : Bytes) : Prop :=
  ∃ containers, list more dataDir user = .ok containers ∧
    list less dataDir user = .ok containers

/-- What opens is seen at its entry. -/
lemma opened?_eq_some_iff (hbase : join dataDir user ≠ []) {c : Container} :
    opened? files dataDir user entry = some c ↔ openNamed files dataDir user entry = .ok c := by
  constructor
  · intro h
    exact (eq_of_opened? h).2
  · intro h
    obtain ⟨_, -, -, hdirectory⟩ := exists_entry_of_openNamed hbase h
    exact opened?_of_openNamed hdirectory h

/-- **An entry that is no container does not matter** if and only if every entry leads somewhere,
with it and without it, and what opens beside it opens without it. -/
lemma listAlike_iff (h : AddsEntry home entry less more)
    (hhome : more.inode (join dataDir user) = .ok home)
    (hmore : more.readDirectory (join dataDir user) = .ok entries)
    (hless : less.readDirectory (join dataDir user) = .ok rest)
    (hclosed : ∀ c, openNamed more dataDir user entry ≠ .ok c) :
    ListAlike less more dataDir user ↔
      AllSeen more dataDir user entries ∧ AllSeen less dataDir user rest ∧
        ∀ name ≠ entry, ∀ c, openNamed more dataDir user name = .ok c →
          openNamed less dataDir user name = .ok c := by
  have hbase := join_ne_nil hmore
  constructor
  · rintro ⟨containers, hlist, hlist'⟩
    refine ⟨((list_eq_ok_iff hmore).1 hlist).1, ((list_eq_ok_iff hless).1 hlist').1,
      fun name _ c hopen => ?_⟩
    obtain rfl := name_of_openNamed hopen
    have hpath : dataDir ≠ [] ∨ user ≠ [] := by
      rwa [← not_and_or, ← join_eq_nil_iff]
    exact ((mem_list_iff hlist').1 ((mem_list_iff hlist).2 ⟨hpath, hopen⟩)).2
  · rintro ⟨hseen, hseen', hkept⟩
    have hsame : rest.filterMap (opened? less dataDir user) =
        entries.filterMap (opened? more dataDir user) := by
      rw [h.readDirectory_of_less hhome hmore hless, List.filterMap_filter]
      apply List.filterMap_congr
      intro name _
      apply Option.ext
      intro c
      rw [opened?_eq_some_iff hbase]
      by_cases hname : name = entry
      · subst hname
        simpa using hclosed c
      · rw [if_pos (bne_iff_ne.2 hname), opened?_eq_some_iff hbase]
        exact ⟨openNamed_of_less h, hkept name hname c⟩
    refine ⟨_, (list_eq_ok_iff hmore).2 ⟨hseen, rfl⟩, (list_eq_ok_iff hless).2 ⟨hseen', ?_⟩⟩
    rw [hsame]

/-- Entries beside another lead somewhere without it, if no link leads through it. -/
lemma AllSeen.without (hseen : AllSeen more dataDir user entries)
    (h : AddsEntry home entry less more) (haside : IsAside more dataDir user entry)
    (hbase : join dataDir user ≠ []) (hplain : ∀ name ∈ entries, IsPlain name) :
    AllSeen less dataDir user (entries.filter (· != entry)) := by
  intro name hname hstage
  obtain ⟨hmem, hne⟩ := List.mem_filter.1 hname
  obtain ⟨i, hinode⟩ := hseen name hmem hstage
  have hpieces := haside.ne_of_mem_pieces hbase (hplain name hmem) (bne_iff_ne.1 hne)
  exact ⟨i, ((h.carries_more haside.links).inode hpieces hinode).1⟩

/-- An entry that is no container, and through which no link leads, does not matter if and only if
every entry leads somewhere. -/
lemma listAlike_iff_of_isAside (h : AddsEntry home entry less more)
    (hhome : more.inode (join dataDir user) = .ok home)
    (hmore : more.readDirectory (join dataDir user) = .ok entries)
    (hless : less.readDirectory (join dataDir user) = .ok rest)
    (hclosed : ∀ c, openNamed more dataDir user entry ≠ .ok c)
    (haside : IsAside more dataDir user entry) (hplain : ∀ name ∈ entries, IsPlain name) :
    ListAlike less more dataDir user ↔ AllSeen more dataDir user entries := by
  have hbase := join_ne_nil hmore
  rw [listAlike_iff h hhome hmore hless hclosed]
  refine ⟨fun halike => halike.1, fun hseen => ⟨hseen, ?_, fun name hname c hopen => ?_⟩⟩
  · rw [h.readDirectory_of_less hhome hmore hless]
    exact hseen.without h haside hbase hplain
  · exact openNamed_of_isAside h haside hbase hname hopen

/-- **One entry hides the others if and only if it leads nowhere**, for every tree in which the
user's directory can be read.  The listing succeeds and has every container that opens if and only
if every entry leads somewhere, but for those of containers that are still being made; and so it is
where no entry is a link and no limit is exceeded, whatever the entries are.  An entry that is no
container leaves the listing as it is, put there or taken away, if and only if every entry leads
somewhere with it and without it, and what opens beside it opens without it; and where no link leads
through it, if and only if every entry leads somewhere. -/
theorem hides_nothing_iff (hhome : files.inode (join dataDir user) = .ok home)
    (hread : files.readDirectory (join dataDir user) = .ok entries) :
    (ListsAll files dataDir user ↔ AllSeen files dataDir user entries) ∧
    ((∀ entry ∈ entries, IsNoLink files home dataDir user entry) → ListsAll files dataDir user) ∧
    ∀ less entry rest, AddsEntry home entry less files →
      less.readDirectory (join dataDir user) = .ok rest →
      (∀ c, openNamed files dataDir user entry ≠ .ok c) →
      (ListAlike less files dataDir user ↔
        AllSeen files dataDir user entries ∧ AllSeen less dataDir user rest ∧
          ∀ name ≠ entry, ∀ c, openNamed files dataDir user name = .ok c →
            openNamed less dataDir user name = .ok c) ∧
      (IsAside files dataDir user entry → (∀ name ∈ entries, IsPlain name) →
        (ListAlike less files dataDir user ↔ AllSeen files dataDir user entries)) := by
  refine ⟨listsAll_iff hread, fun hlinks => ?_, fun less entry rest h hless hclosed => ⟨?_, ?_⟩⟩
  · exact (listsAll_iff hread).2 (allSeen_of_no_links hhome hread hlinks)
  · exact listAlike_iff h hhome hread hless hclosed
  · exact listAlike_iff_of_isAside h hhome hread hless hclosed

/-- A user's directory with a container, a directory without a configuration, one without a text for
its name, and a file. -/
def mixedHome : Filesystem where
  nodes := #[.directory 0 [("data", 1)], .directory 0 [("user", 2)],
    .directory 1 [("notes", 3), ("bare", 4), ([0xff], 4), ("dev", 5)], .file [] 0o644,
    .directory 2 [], .directory 2 [("config.json", 6)], .file "{}" 0o644]
  here := 0

/-- The container of that directory. -/
def mixedContainer : Container := ⟨"dev", "/data/user/dev", ⟨false⟩⟩

/-- The container is listed beside the others, and without the file the listing is the same. -/
theorem hides_nothing_mixedHome :
    list mixedHome "/data" "user" = .ok [mixedContainer] ∧
      openNamed mixedHome "/data" "user" "dev" = .ok mixedContainer ∧
      ListsAll mixedHome "/data" "user" ∧
      ListAlike (mixedHome.dropEntry 2 "notes") mixedHome "/data" "user" := by
  have hhome : mixedHome.inode (join "/data" "user") = .ok 2 := by rfl
  have hread : mixedHome.readDirectory (join "/data" "user") =
      .ok [ofString "notes", ofString "bare", [0xff], ofString "dev"] := by
    rfl
  have hunsorted : list mixedHome "/data" "user" = .ok (sorted [mixedContainer]) := by rfl
  have hlist : list mixedHome "/data" "user" = .ok [mixedContainer] := by
    rw [hunsorted, sorted, List.mergeSort_singleton]
  have hseen := ((list_eq_ok_iff hread).1 hlist).1
  have hnotes : openNamed mixedHome "/data" "user" "notes" =
      .error (.settingsRead "/data/user/notes/config.json" (.os .notDirectory)) := by
    rfl
  have haside : IsAside mixedHome "/data" "user" "notes" := by
    refine ⟨fun i target hlink => ?_, by decide, by decide⟩
    have hmem := Array.mem_of_getElem? hlink
    simp [mixedHome] at hmem
  have hplain : ∀ name ∈ [ofString "notes", ofString "bare", [0xff], ofString "dev"],
      slash ∉ name ∧ isNormal name := by
    decide
  obtain ⟨hall, -, halike⟩ := hides_nothing_iff hhome hread
  obtain ⟨-, hwithout⟩ := halike _ "notes" [ofString "bare", [0xff], ofString "dev"]
    (addsEntry_dropEntry rfl "notes") rfl (by simp [hnotes])
  refine ⟨hlist, rfl, hall.2 hseen, (hwithout haside fun name hname => ?_).2 hseen⟩
  exact ⟨(hplain name hname).1, (hplain name hname).2⟩

/-- A user's directory with a container and with a link to nothing. -/
def brokenHome : Filesystem where
  nodes := #[.directory 0 [("data", 1)], .directory 0 [("user", 2)],
    .directory 1 [("dev", 3), ("gone", 4)], .directory 2 [("config.json", 5)], .symlink "missing",
    .file "{}" 0o644]
  here := 0

/-- A container that opens is not listed beside a link to nothing, which is no container; and
without the link it is. -/
theorem link_to_nothing_hides :
    brokenHome.readDirectory (join "/data" "user") = .ok [ofString "dev", ofString "gone"] ∧
      openNamed brokenHome "/data" "user" "dev" = .ok mixedContainer ∧
      openNamed brokenHome "/data" "user" "gone" = .error (.containerNotFound "gone") ∧
      list brokenHome "/data" "user" = .error (.io (.os .noEntry)) ∧
      list (brokenHome.dropEntry 2 "gone") "/data" "user" = .ok [mixedContainer] := by
  have hunsorted : list (brokenHome.dropEntry 2 "gone") "/data" "user" =
      .ok (sorted [mixedContainer]) := by
    rfl
  refine ⟨rfl, rfl, rfl, rfl, ?_⟩
  rw [hunsorted, sorted, List.mergeSort_singleton]

end Inventory

end ContainerEntry
