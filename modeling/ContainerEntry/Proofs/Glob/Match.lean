import Mathlib
import ContainerEntry.Glob.Match
import ContainerEntry.Proofs.Glob.Language

/-!
# Matching finds a cut if there is one

A name can be cut in many ways along a pattern with stars, and the matcher looks at few of them: it
takes a segment up to the next star at the first place where it succeeds, and never goes back.  It
loses nothing by that.

* **A segment runs in one way** (`Runs`, `runs_matchSegment`), and what comes of it decides whether
  the pattern fits the name (`Runs.tells`).
* **A segment has one width** (`Runs.exists_of_fits`), whatever name it fits.  So where it succeeds
  first, most of the name is left for the star behind it, and what that star takes at a later place
  it takes there too (`tells_firstMatch`).
* **There are fewer stars than bytes in a pattern** (`matchBehindStar_iff`), so the bound on the
  stars is never met.

`isMatch_iff` puts them together: a pattern without brackets matches the names that it fits.
-/

namespace ContainerEntry.Glob

open Bytes

/-! ### Segments -/

/-- How a segment of a pattern without brackets is matched. -/
inductive Runs : (pattern name : Bytes) → Segment → Prop where
  /-- Pattern and name are at their ends. -/
  | finished : Runs [] [] .finished
  /-- Only the pattern is at its end. -/
  | longer (x : UInt8) (name : Bytes) : Runs [] (x :: name) .mismatch
  /-- A backslash ends the pattern. -/
  | broken (name : Bytes) : Runs [backslash] name .mismatch
  /-- A star is next. -/
  | star (pattern name : Bytes) : Runs (asterisk :: pattern) name (.star pattern name)
  /-- Only the name is at its end. -/
  | shorter {pattern rest : Bytes} {token : Token} (hbegins : Begins pattern token rest) :
    Runs pattern [] .mismatch
  /-- The next token does not cover the next byte. -/
  | refused {pattern rest name : Bytes} {token : Token} {x : UInt8}
    (hbegins : Begins pattern token rest) (hx : ¬ token.covers [x]) :
    Runs pattern (x :: name) .mismatch
  /-- The next token covers the next byte. -/
  | taken {pattern rest name : Bytes} {token : Token} {x : UInt8} {result : Segment}
    (hbegins : Begins pattern token rest) (hx : token.covers [x]) (hruns : Runs rest name result) :
    Runs pattern (x :: name) result

variable {pattern behind rest name tail : Bytes} {token : Token} {result : Segment} {x : UInt8}

/-- A token for one byte takes a byte that it covers. -/
lemma Begins.matchOne_eq (h : Begins pattern token rest) (x : UInt8) :
    matchOne x pattern = if token.covers [x] then some rest else none := by
  cases h with
  | escaped byte =>
    show (if x = byte then some rest else none) = _
    simp [Token.covers]
  | anyByte => rfl
  | itself hbyte =>
    simp [matchOne, Token.covers, hbyte.ne_backslash, hbyte.ne_question, hbyte.ne_openBracket]

/-- A pattern that begins with a token for one byte has a first byte, which is no star. -/
lemma Begins.exists_eq_cons (h : Begins pattern token rest) :
    ∃ first others, pattern = first :: others ∧ first ≠ asterisk := by
  cases h with
  | escaped byte => exact ⟨backslash, byte :: rest, rfl, by decide⟩
  | anyByte => exact ⟨question, rest, rfl, by decide⟩
  | itself hbyte => exact ⟨_, rest, rfl, hbyte.ne_asterisk⟩

/-- A segment that goes on does not match at the end of a name. -/
lemma Begins.matchSegment_nil (h : Begins pattern token rest) :
    matchSegment [] pattern = .mismatch := by
  obtain ⟨first, others, rfl, hfirst⟩ := h.exists_eq_cons
  simp [matchSegment, hfirst]

/-- A segment goes on behind a byte that its first token covers. -/
lemma Begins.matchSegment_cons (h : Begins pattern token rest) :
    matchSegment (x :: name) pattern =
      if token.covers [x] then matchSegment name rest else .mismatch := by
  obtain ⟨first, others, rfl, hfirst⟩ := h.exists_eq_cons
  rw [matchSegment, h.matchOne_eq]
  · split_ifs <;> rfl
  · simp [hfirst]
  · simp

/-- **Matching a segment is a run of it.** -/
lemma runs_matchSegment (h : hasBracket pattern = false) (name : Bytes) :
    Runs pattern name (matchSegment name pattern) := by
  induction name generalizing pattern with
  | nil =>
    rcases exists_begins h with rfl | rfl | ⟨rest, rfl⟩ | ⟨token, rest, hbegins⟩
    · exact .finished
    · exact .broken []
    · exact .star rest []
    · rw [hbegins.matchSegment_nil]
      exact .shorter hbegins
  | cons x name ih =>
    rcases exists_begins h with rfl | rfl | ⟨rest, rfl⟩ | ⟨token, rest, hbegins⟩
    · exact .longer x name
    · exact .broken (x :: name)
    · exact .star rest (x :: name)
    · rw [hbegins.matchSegment_cons]
      split_ifs with hx
      · exact .taken hbegins hx (ih (hbegins.hasBracket_eq ▸ h))
      · exact .refused hbegins hx

/-- What the outcome of matching a segment tells of the pattern and the name. -/
def Segment.Tells (pattern name : Bytes) : Segment → Prop
  | .mismatch => ¬ Fits pattern name
  | .finished => Fits pattern name
  | .star behind rest => Fits pattern name ↔ Fits (asterisk :: behind) rest

/-- The same is told of patterns and names that fit alike. -/
lemma Segment.Tells.congr {pattern' name' : Bytes} (h : result.Tells pattern' name')
    (hfits : Fits pattern name ↔ Fits pattern' name') : result.Tells pattern name := by
  cases result with
  | mismatch => exact hfits.not.2 h
  | finished => exact hfits.2 h
  | star behind left => exact hfits.trans h

/-- Whether a segment matches, with what is behind it if it ends at a star. -/
def Segment.settle (matchBehind : (pattern name : Bytes) → Bool) : Segment → Bool
  | .mismatch => false
  | .finished => true
  | .star behind rest => matchBehind behind rest

/-- A segment that ends at a star is settled by what fits behind the star. -/
lemma Segment.Tells.settle_iff {matchBehind : Bytes → Bytes → Bool} (h : result.Tells pattern name)
    (hbehind : ∀ behind rest, result = .star behind rest →
      (matchBehind behind rest = true ↔ Fits (asterisk :: behind) rest)) :
    result.settle matchBehind = true ↔ Fits pattern name := by
  cases result with
  | mismatch => exact iff_of_false Bool.false_ne_true h
  | finished => exact iff_of_true rfl h
  | star behind rest => exact (hbehind behind rest rfl).trans h.symm

/-- **What comes of a segment decides whether the pattern fits.** -/
lemma Runs.tells (h : Runs pattern name result) : result.Tells pattern name := by
  induction h with
  | finished => exact fits_nil_iff.2 rfl
  | longer x name => simp [Segment.Tells, fits_nil_iff]
  | broken name => exact not_fits_backslash
  | star pattern name => exact Iff.rfl
  | shorter hbegins => exact hbegins.not_fits_nil
  | refused hbegins hx =>
    intro hfits
    exact hx (hbegins.fits_cons_iff.1 hfits).1
  | taken hbegins hx hruns ih =>
    apply ih.congr
    rw [hbegins.fits_cons_iff, and_iff_right hx]

/-- The pattern behind a star has no bracket either, and is shorter. -/
lemma Runs.of_star (h : Runs pattern name (.star behind rest))
    (hbracket : hasBracket pattern = false) :
    hasBracket behind = false ∧ behind.length < pattern.length := by
  generalize hresult : Segment.star behind rest = result at h
  induction h with
  | finished | longer | broken | shorter | refused => cases hresult
  | star pattern name =>
    cases hresult
    exact ⟨hbracket, by simp⟩
  | taken hbegins hx hruns ih =>
    obtain ⟨hbehind, hlength⟩ := ih (hbegins.hasBracket_eq ▸ hbracket) hresult
    exact ⟨hbehind, hlength.trans hbegins.length_lt⟩

/-- **A segment has one width.**  Where it ends at a star, it takes as many bytes of every name that
the pattern fits. -/
lemma Runs.exists_of_fits (h : Runs pattern name (.star behind rest)) :
    ∃ piece, name = piece ++ rest ∧ ∀ other, Fits pattern other →
      ∃ piece' rest', other = piece' ++ rest' ∧ piece'.length = piece.length ∧
        Fits (asterisk :: behind) rest' := by
  generalize hresult : Segment.star behind rest = result at h
  induction h with
  | finished | longer | broken | shorter | refused => cases hresult
  | star pattern name =>
    cases hresult
    exact ⟨[], rfl, fun other hfits => ⟨[], other, rfl, rfl, hfits⟩⟩
  | @taken pattern rest' name token x result hbegins hx hruns ih =>
    obtain ⟨piece, rfl, hother⟩ := ih hresult
    refine ⟨x :: piece, rfl, fun other hfits => ?_⟩
    cases other with
    | nil => exact absurd hfits hbegins.not_fits_nil
    | cons y other =>
      obtain ⟨-, hfits⟩ := hbegins.fits_cons_iff.1 hfits
      obtain ⟨piece', rest', rfl, hlength, hstar⟩ := hother other hfits
      exact ⟨y :: piece', rest', rfl, by simp [hlength], hstar⟩

/-! ### The first place -/

/-- What is found at the first place is found at some place. -/
lemma exists_of_firstMatch (h : firstMatch pattern name = result) (hresult : result ≠ .mismatch) :
    ∃ tail, matchSegment tail pattern = result := by
  induction name with
  | nil => exact absurd h.symm hresult
  | cons x name ih =>
    rw [firstMatch] at h
    split at h
    · exact ih h
    · exact ⟨x :: name, h⟩

/-- **Behind a star it is enough to look at the first place where a segment matches.**  Every later
place leaves less of the name, by the segment's width, to the star at the segment's end. -/
lemma tells_firstMatch (h : hasBracket pattern = false) (hempty : ¬ Fits pattern []) (name : Bytes) :
    (firstMatch pattern name).Tells (asterisk :: pattern) name := by
  induction name with
  | nil =>
    rw [firstMatch, Segment.Tells, fits_star_nil_iff]
    exact hempty
  | cons x name ih =>
    have hruns := runs_matchSegment h (x :: name)
    have htells := hruns.tells
    rw [firstMatch]
    cases hfound : matchSegment (x :: name) pattern with
    | mismatch =>
      rw [hfound] at htells
      apply ih.congr
      rw [fits_star_cons_iff]
      exact or_iff_right htells
    | finished =>
      rw [hfound] at htells
      exact htells.star
    | star behind rest =>
      rw [hfound] at htells hruns
      obtain ⟨piece, hname, hwidth⟩ := hruns.exists_of_fits
      show Fits (asterisk :: pattern) (x :: name) ↔ Fits (asterisk :: behind) rest
      constructor
      · intro hfits
        obtain ⟨tail, htail, hfits⟩ := fits_star_iff.1 hfits
        obtain ⟨piece', rest', rfl, hlength, hstar⟩ := hwidth tail hfits
        apply hstar.star_of_suffix
        -- Both pieces are of one width, so the later place leaves the shorter rest.
        have hrest : rest <:+ x :: name := hname ▸ List.suffix_append piece rest
        have hrest' : rest' <:+ x :: name := (List.suffix_append piece' rest').trans htail
        have htotal := htail.length_le
        rw [hname, List.length_append, List.length_append] at htotal
        exact List.suffix_of_suffix_length_le hrest' hrest (by omega)
      · intro hstar
        exact (htells.2 hstar).star

/-! ### Stars -/

/-- What is left behind a star when the stars and question marks next to it have been passed over,
and the bytes of the name that these take. -/
structure Leaves (pattern name pattern' name' : Bytes) : Prop where
  /-- What is left fits behind a star if and only if the whole does. -/
  fits_iff : Fits (asterisk :: pattern) name ↔ Fits (asterisk :: pattern') name'
  /-- It has no bracket if the whole has none. -/
  hasBracket_eq : hasBracket pattern = hasBracket pattern'
  /-- It is no longer than the whole. -/
  length_le : pattern'.length ≤ pattern.length
  /-- It is empty, or takes at least a byte. -/
  ends_or_takes : pattern' = [] ∨ ¬ Fits pattern' []

/-- What is left of a pattern is left of a longer one that fits alike. -/
lemma Leaves.cons {first : UInt8} {whole pattern' name' : Bytes}
    (h : Leaves pattern name pattern' name')
    (hfits : Fits (asterisk :: first :: pattern) whole ↔ Fits (asterisk :: pattern) name)
    (hbracket : hasBracket (first :: pattern) = hasBracket pattern) :
    Leaves (first :: pattern) whole pattern' name' where
  fits_iff := hfits.trans h.fits_iff
  hasBracket_eq := hbracket.trans h.hasBracket_eq
  length_le := h.length_le.trans (Nat.le_succ _)
  ends_or_takes := h.ends_or_takes

/-- A pattern that begins with neither a star nor a question mark is left as it is. -/
lemma leaves_self (h : hasBracket pattern = false) (hstar : ∀ rest, pattern ≠ asterisk :: rest)
    (name : Bytes) : Leaves pattern name pattern name := by
  refine ⟨Iff.rfl, rfl, le_rfl, ?_⟩
  rcases exists_begins h with rfl | rfl | ⟨rest, rfl⟩ | ⟨token, rest, hbegins⟩
  · exact .inl rfl
  · exact .inr not_fits_backslash
  · exact absurd rfl (hstar rest)
  · exact .inr hbegins.not_fits_nil

/-- **Passing over stars and question marks loses no cut**, and fails only where there is none. -/
lemma passStars_cases (h : hasBracket pattern = false) (name : Bytes) :
    (passStars pattern name = none ∧ ¬ Fits (asterisk :: pattern) name) ∨
      ∃ pattern' name', passStars pattern name = some (pattern', name') ∧
        Leaves pattern name pattern' name' := by
  fun_induction passStars pattern name with
  | case1 pattern name ih =>
    rcases ih h with ⟨hnone, hfits⟩ | ⟨pattern', name', hsome, hleaves⟩
    · exact .inl ⟨hnone, fits_star_star_iff.not.2 hfits⟩
    · exact .inr ⟨pattern', name', hsome, hleaves.cons fits_star_star_iff rfl⟩
  | case2 pattern =>
    refine .inl ⟨rfl, ?_⟩
    rw [fits_star_nil_iff]
    exact (Begins.anyByte pattern).not_fits_nil
  | case3 pattern x name ih =>
    rcases ih h with ⟨hnone, hfits⟩ | ⟨pattern', name', hsome, hleaves⟩
    · exact .inl ⟨hnone, fits_star_question_cons_iff.not.2 hfits⟩
    · exact .inr ⟨pattern', name', hsome, hleaves.cons fits_star_question_cons_iff rfl⟩
  | case4 pattern name hstar hquestion =>
    exact .inr ⟨pattern, name, rfl, leaves_self h hstar name⟩

/-- **What is matched behind a star is what fits behind it**, for every bound on the stars that is
greater than the pattern's length. -/
lemma matchBehindStar_iff {stars : Nat} (h : hasBracket pattern = false)
    (hstars : pattern.length < stars) :
    matchBehindStar stars pattern name = true ↔ Fits (asterisk :: pattern) name := by
  -- The induction is on the bound: what is behind the next star is shorter by a byte or more.
  induction stars generalizing pattern name with
  | zero => omega
  | succ stars ih =>
    rw [matchBehindStar]
    rcases passStars_cases h name with ⟨hnone, hfits⟩ | ⟨pattern', name', hsome, hleaves⟩
    · simp [hnone, hfits]
    rw [hsome, hleaves.fits_iff]
    have hbracket : hasBracket pattern' = false := hleaves.hasBracket_eq ▸ h
    rcases hleaves.ends_or_takes with rfl | hempty
    · have hall : Fits [asterisk] name' := fits_star_iff.2 ⟨[], List.nil_suffix, fits_nil_iff.2 rfl⟩
      simp [hall]
    cases pattern' with
    | nil => exact absurd (fits_nil_iff.2 rfl) hempty
    | cons first others =>
      show (firstMatch (first :: others) name').settle (matchBehindStar stars) = true ↔ _
      apply (tells_firstMatch hbracket hempty name').settle_iff
      intro behind rest hfound
      obtain ⟨tail, htail⟩ := exists_of_firstMatch hfound (by simp)
      obtain ⟨hbehind, hlength⟩ := (htail ▸ runs_matchSegment hbracket tail).of_star hbracket
      have hle := hleaves.length_le
      exact ih hbehind (by omega)

/-- **A pattern without brackets matches the names that it fits**, and no others. -/
theorem isMatch_iff (h : hasBracket pattern = false) :
    isMatch pattern name = true ↔ Fits pattern name := by
  have hruns := runs_matchSegment h name
  show (matchSegment name pattern).settle (matchBehindStar (pattern.length + 1)) = true ↔ _
  apply hruns.tells.settle_iff
  intro behind rest hfound
  obtain ⟨hbehind, hlength⟩ := (hfound ▸ hruns).of_star h
  exact matchBehindStar_iff hbehind (by omega)

end ContainerEntry.Glob
