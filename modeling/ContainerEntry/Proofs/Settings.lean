import Mathlib
import ContainerEntry.Settings

/-!
# Settings that are loaded

Settings come from a file, or they are the standard ones where there is no file.  Either way they
break no rule (`brokenRule_of_loadOrStandard`), which says just two things
(`brokenRule_eq_none_iff`): the paths among them are absolute (`isAbsolute_of_loadOrStandard`), and
the terminal service's socket is a plain file name (`isFileName_of_loadOrStandard`).  So a program
that has its settings need not check them again.
-/

namespace ContainerEntry.Settings

variable {files : Filesystem} {path : Bytes} {settings : Settings}

/-- Settings that are loaded break no rule. -/
lemma brokenRule_of_loadOrStandard (h : loadOrStandard files path = .ok settings) :
    settings.brokenRule = none := by
  unfold loadOrStandard at h
  split at h
  · unfold load at h
    split at h
    · cases h
    split at h
    · cases h
    split at h
    · cases h
    · next hrule =>
      cases h
      exact hrule
  · split_ifs at h
    cases h
    decide

/-- Settings break no rule if and only if their paths are absolute and the socket has a plain file
name. -/
lemma brokenRule_eq_none_iff : settings.brokenRule = none ↔
    (∀ p ∈ settings.absolutePaths, Path.isAbsolute p.2) ∧ isFileName settings.ptySocket := by
  unfold brokenRule
  split
  · next key value hfind =>
    refine iff_of_false (by simp) fun h => ?_
    have hrelative := List.find?_some hfind
    rw [h.1 _ (List.mem_of_find?_eq_some hfind)] at hrelative
    cases hrelative
  · next hfind =>
    have habsolute : ∀ p ∈ settings.absolutePaths, Path.isAbsolute p.2 := by
      intro p hp
      simpa using List.find?_eq_none.1 hfind p hp
    rw [and_iff_right habsolute]
    cases isFileName settings.ptySocket <;> simp

/-- **The paths in settings that are loaded are absolute.** -/
theorem isAbsolute_of_loadOrStandard (h : loadOrStandard files path = .ok settings) :
    ∀ p ∈ settings.absolutePaths, Path.isAbsolute p.2 :=
  (brokenRule_eq_none_iff.1 (brokenRule_of_loadOrStandard h)).1

/-- **The socket in settings that are loaded has a plain file name.** -/
theorem isFileName_of_loadOrStandard (h : loadOrStandard files path = .ok settings) :
    isFileName settings.ptySocket :=
  (brokenRule_eq_none_iff.1 (brokenRule_of_loadOrStandard h)).2

/-- There is a data directory in settings that are loaded. -/
lemma dataDir_ne_nil_of_loadOrStandard (h : loadOrStandard files path = .ok settings) :
    settings.dataDir ≠ [] := by
  have habsolute := isAbsolute_of_loadOrStandard h ("paths.data_dir", settings.dataDir)
    List.mem_cons_self
  intro hnil
  rw [hnil] at habsolute
  cases habsolute

end ContainerEntry.Settings
