import Mathlib
import ContainerEntry.Container.Basic
import ContainerEntry.Lock.Level
import ContainerEntry.Proofs.Path

/-!
# Paths inside a container's directory

Everything that is kept about a container is kept below the directory of its name in its user's
directory: the configuration, the lock files and the storage tree.  The name is one plain component,
because no other name is accepted, and behind it only plain components are ever added.

* **A container's name is one component** (`isPlain_of_isName`); any other text is refused before a
  file is looked at (`openNamed_of_components_ne`).
* **Lock files are in the directory** (`components_target`), and the storage tree holds what goes
  down from it (`components_storageChild`).

`paths_stay_inside` puts them together.
-/

namespace ContainerEntry

open Bytes ContainerEntry.Path

/-! ### Names -/

namespace Container

/-- **A container's name is one plain component.** -/
lemma isPlain_of_isName {name : Bytes} (h : isName name) : IsPlain name := by
  simp only [isName, Bool.and_eq_true, Bool.not_eq_true', List.all_eq_true] at h
  obtain ⟨hne, hbytes⟩ := h
  have hslash : slash ∉ name := by
    intro hmem
    exact absurd (hbytes slash hmem) (by decide)
  have hdot : dot ∉ name := by
    intro hmem
    exact absurd (hbytes dot hmem) (by decide)
  refine ⟨hslash, ?_⟩
  simp only [Path.isNormal, Bool.and_eq_true, bne_iff_ne]
  refine ⟨⟨?_, ?_⟩, ?_⟩
  · simpa using hne
  · intro heq
    exact hdot (heq ▸ List.mem_cons_self)
  · intro heq
    exact hdot (heq ▸ List.mem_cons_self)

variable {files : Filesystem} {dataDir user name : Bytes} {c : Container}

/-- A text that is not one plain component is refused, whatever the files are. -/
lemma openNamed_of_components_ne (h : components name ≠ [.normal name]) :
    openNamed files dataDir user name = .error (.invalidName name) := by
  have hname : ¬ isName name := by
    intro hname
    exact h (isPlain_of_isName hname).components_eq
  rw [openNamed, if_neg hname]

/-- A container that is opened is where it was looked for. -/
lemma path_of_openPath {path : Bytes} (h : openPath files path name = .ok c) : c.path = path := by
  unfold openPath at h
  dsimp only at h
  split at h
  · split_ifs at h
  · split at h
    · cases h
    · cases h
      rfl

/-- A container that is opened has a container's name and is in the directory of that name. -/
lemma of_openNamed (h : openNamed files dataDir user name = .ok c) :
    isName name ∧ c.path = directory dataDir user name := by
  unfold openNamed at h
  split_ifs at h with hname
  exact ⟨hname, path_of_openPath h⟩

/-! ### Paths -/

/-- The steps to the directory of a user's container. -/
def home (dataDir user name : Bytes) : List Component :=
  components (join dataDir user) ++ [.normal name]

/-- The directory of a container is one step below its user's. -/
lemma components_path (h : openNamed files dataDir user name = .ok c) :
    components c.path = home dataDir user name := by
  obtain ⟨hname, hpath⟩ := of_openNamed h
  rw [hpath, directory, (isPlain_of_isName hname).components_join, home]

/-- The configuration is a file of the directory. -/
lemma components_configPath (c : Container) :
    components (join c.path configName) = components c.path ++ [.normal configName] := by
  have hplain : IsPlain configName := ⟨by decide, by decide⟩
  exact hplain.components_join c.path

/-- **The storage tree holds what its parts lead to**: their normal components, one below the
other. -/
lemma components_storageChild (c : Container) (parts : List Bytes) :
    components (c.storageChild parts) = components c.path ++ .normal "storage" ::
      (parts.flatMap fun part => (components part).filterMap Component.name?).map .normal := by
  have hplain : IsPlain (ofString "storage") := ⟨by decide, by decide⟩
  rw [storageChild, components_descend, storage, hplain.components_join, funext normals_eq,
    List.append_assoc, List.singleton_append]

end Container

/-- A lock file has a plain name. -/
lemma Lock.Level.isPlain_of_sentinel? {level : Level} {name : Bytes}
    (h : level.sentinel? = some name) : IsPlain name := by
  cases level <;> cases h <;> exact ⟨by decide, by decide⟩

/-- **What a lock takes is a container's directory or a file in it.** -/
lemma Lock.Level.components_target {level : Level} {directory : Bytes} {target : Target}
    (h : target ∈ level.targets directory) :
    target.path = directory ∨ ∃ name, IsPlain name ∧
      components target.path = components directory ++ [.normal name] := by
  unfold targets at h
  split at h
  next name hname =>
    obtain rfl := List.mem_singleton.1 h
    have hplain := isPlain_of_sentinel? hname
    exact .inr ⟨name, hplain, hplain.components_join directory⟩
  next =>
    rcases List.mem_cons.1 h with rfl | hmem
    · exact .inl rfl
    · obtain ⟨name, hname, rfl⟩ := List.mem_map.1 hmem
      obtain ⟨part, -, hpart⟩ := List.mem_filterMap.1 hname
      have hplain := isPlain_of_sentinel? hpart
      exact .inr ⟨name, hplain, hplain.components_join directory⟩

namespace Container

/-- **Every path of a container stays inside its directory.**  The directory is the one of the
container's name, one step below its user's.  The configuration and all that a lock takes are in it,
with only normal components behind the name; and the storage tree holds exactly the normal
components of the parts, in order, however the parts are grouped.  A text that is not one plain
component names no container, whatever the files are. -/
theorem paths_stay_inside (files : Filesystem) (dataDir user name : Bytes) :
    (∀ c, openNamed files dataDir user name = .ok c →
      components c.path = home dataDir user name ∧
      components (join c.path configName) = home dataDir user name ++ [.normal configName] ∧
      (∀ (level : Lock.Level), ∀ target ∈ level.targets c.path, ∃ below : List Bytes,
        components target.path = home dataDir user name ++ below.map .normal) ∧
      (∀ parts, components (c.storageChild parts) = home dataDir user name ++ .normal "storage" ::
        (parts.flatMap fun part => (components part).filterMap Component.name?).map .normal) ∧
      ∀ groups : List (List Bytes),
        c.storageChild (groups.map (joinWith [slash])) = c.storageChild groups.flatten) ∧
    (components name ≠ [.normal name] →
      openNamed files dataDir user name = .error (.invalidName name)) := by
  refine ⟨?_, openNamed_of_components_ne⟩
  intro c hopen
  have hpath := components_path hopen
  refine ⟨hpath, ?_, ?_, ?_, ?_⟩
  · rw [components_configPath, hpath]
  · intro level target htarget
    rcases Lock.Level.components_target htarget with hdirectory | ⟨lock, -, hlock⟩
    · exact ⟨[], by rw [hdirectory, hpath, List.map_nil, List.append_nil]⟩
    · exact ⟨[lock], by rw [hlock, hpath, List.map_singleton]⟩
  · intro parts
    rw [components_storageChild, hpath]
  · intro groups
    exact descend_joinWith c.storage groups

/-- A directory with one user's container in it. -/
def oneContainer : Filesystem where
  nodes := #[.directory 0 [("u", 1)], .directory 0 [("dev", 2)], .directory 1 [("config.json", 3)],
    .file "[]" 0o644]
  here := 0

/-- From a directory that is written as a dot, parts with roots, dots and parent steps in them lead
to their normal components below the storage tree; and a parent step names no container. -/
theorem paths_stay_inside_oneContainer :
    openNamed oneContainer "./" "u" "dev" = .ok ⟨"dev", "./u/dev", ⟨false⟩⟩ ∧
      components (storageChild ⟨"dev", "./u/dev", ⟨false⟩⟩ ["/run//host/", "..", "./a/../b"]) =
        [.here, .normal "u", .normal "dev", .normal "storage", .normal "run", .normal "host",
          .normal "a", .normal "b"] ∧
      components ".." ≠ [.normal ".."] ∧
      openNamed oneContainer "./" "u" ".." = .error (.invalidName "..") := by
  have hopen : openNamed oneContainer "./" "u" "dev" = .ok ⟨"dev", "./u/dev", ⟨false⟩⟩ := by rfl
  have hparent : components ".." ≠ [.normal ".."] := by decide
  obtain ⟨-, -, -, hstorage, -⟩ := (paths_stay_inside oneContainer "./" "u" "dev").1 _ hopen
  refine ⟨hopen, ?_, hparent, (paths_stay_inside oneContainer "./" "u" "..").2 hparent⟩
  rw [hstorage]
  decide

end Container

end ContainerEntry
