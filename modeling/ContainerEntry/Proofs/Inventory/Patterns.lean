import Mathlib
import ContainerEntry.Proofs.Glob.Match
import ContainerEntry.Proofs.Inventory.Selection

/-!
# What patterns select

A pattern without brackets says what it says in a shell: its tokens are matched with pieces of the
whole name.  So there is a pattern for each name that selects this name only, whatever stars and
brackets are in the name, and a list of such patterns selects containers by their names.

`matches_what_is_described` has the three statements together.  They rest on `Glob.isMatch_iff`, on
the reading of quoted names (`Glob.fits_quoted_iff`), and on what patterns keep that can all be read
(`filter_of_readable`).
-/

namespace ContainerEntry.Inventory

open Bytes

/-- A quoted name matches this name and no other. -/
lemma isMatch_quoted (name other : Bytes) :
    Glob.isMatch (Glob.quoted name) other = decide (other = name) := by
  obtain ⟨hbracket, -⟩ := Glob.reads_quoted name
  rw [Bool.eq_iff_iff, Glob.isMatch_iff hbracket, Glob.fits_quoted_iff, decide_eq_true_iff]

/-- Quoted names select the containers that have one of the names. -/
lemma any_isMatch_quoted (names : List Bytes) (other : Bytes) :
    (names.map Glob.quoted).any (Glob.isMatch · other) = decide (other ∈ names) := by
  rw [Bool.eq_iff_iff, List.any_map, List.any_eq_true, decide_eq_true_iff]
  simp [isMatch_quoted]

/-- **A pattern without brackets matches the names that its tokens describe.**  For all patterns and
names without NULs:

* a pattern without brackets can be read, and it matches a name if and only if it has tokens and the
  whole name can be cut into pieces for them, however many such cuts there are;
* a name with a backslash before each character matches this name and no other; and
* some names, each of them quoted, keep exactly the containers that have one of the names. -/
theorem matches_what_is_described :
    (∀ pattern name : Bytes, nul ∉ pattern → nul ∉ name → Glob.hasBracket pattern = false →
      (Glob.isMatch? pattern name).isSome ∧
        (Glob.isMatch? pattern name = some true ↔
          ∃ tokens, Glob.tokens? pattern = some tokens ∧ Glob.Describes tokens name)) ∧
    (∀ name other : Bytes, nul ∉ name → nul ∉ other →
      Glob.isMatch? (Glob.quoted name) other = some (decide (other = name))) ∧
    ∀ (containers : List Container) (names : List Bytes), (∀ c ∈ containers, nul ∉ c.name) →
      names ≠ [] → (∀ name ∈ names, nul ∉ name) →
        filter containers (names.map Glob.quoted) =
          .ok (containers.filter fun c => c.name ∈ names) := by
  refine ⟨?_, ?_, ?_⟩
  · intro pattern name hpattern hname hbracket
    rw [isMatch?_of_readable hname hpattern]
    refine ⟨rfl, ?_⟩
    rw [Option.some_inj]
    exact Glob.isMatch_iff hbracket
  · intro name other hname hother
    rw [isMatch?_of_readable hother (Glob.nul_notMem_quoted hname), isMatch_quoted]
  · intro containers names hcontainers hne hnames
    have hpatterns : ∀ p ∈ names.map Glob.quoted, nul ∉ p := by
      intro p hp
      obtain ⟨name, hname, rfl⟩ := List.mem_map.1 hp
      exact Glob.nul_notMem_quoted (hnames name hname)
    have hne' : names.map Glob.quoted ≠ [] := by simpa using hne
    rw [filter_of_readable hcontainers hne' hpatterns]
    simp only [any_isMatch_quoted]

/-- A pattern in which stars stand next to an escaped star, a question mark and a character of two
bytes describes a name with several cuts; and a name that is a pattern itself, when it is quoted,
keeps only the container of this name. -/
theorem matches_what_is_described_stars :
    (Glob.isMatch? "*a\\**?é*" "aa*a*xéé" = some true ∧
      ∃ tokens, Glob.tokens? "*a\\**?é*" = some tokens ∧ Glob.Describes tokens "aa*a*xéé") ∧
    Glob.isMatch? (Glob.quoted "é[*") "é[*" = some true ∧
    filter [namedContainer "dev", namedContainer "d*"] ["d*"] =
      .ok [namedContainer "dev", namedContainer "d*"] ∧
    filter [namedContainer "dev", namedContainer "d*"] [Glob.quoted "d*"] =
      .ok [namedContainer "d*"] := by
  obtain ⟨hmatch, hquoted, hfilter⟩ := matches_what_is_described
  have hstars : Glob.isMatch? "*a\\**?é*" "aa*a*xéé" = some true := by decide
  obtain ⟨-, hdescribed⟩ := hmatch "*a\\**?é*" "aa*a*xéé" (by decide) (by decide) (by decide)
  refine ⟨⟨hstars, hdescribed.1 hstars⟩, ?_, by decide, ?_⟩
  · exact hquoted "é[*" "é[*" (by decide) (by decide)
  · exact hfilter [namedContainer "dev", namedContainer "d*"] ["d*"] (by decide) (by decide)
      (by decide)

end ContainerEntry.Inventory
