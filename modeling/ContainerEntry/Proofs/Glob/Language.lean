import Mathlib
import ContainerEntry.Glob.Language
import ContainerEntry.Proofs.Text.Utf8

/-!
# What patterns say

A pattern without brackets is read from the left, one token after another, so whatever is said of it
goes by its first token and by what is behind that.

* **A pattern begins with a star or with a token for one byte** (`exists_begins`), unless it is
  empty or a backslash alone.
* **A pattern fits a name** (`Fits`) if it has tokens and these describe the name.  A token for one
  byte takes the first byte of the name (`Begins.fits_cons_iff`), a star any bytes that the name
  starts with (`fits_star_iff`).
* **A quoted name fits this name only** (`fits_quoted_iff`).  What follows the first byte of a
  character is no ASCII, and so needs no backslash of its own.
-/

namespace ContainerEntry.Glob

open Bytes

/-! ### The first token -/

/-- A byte that stands for itself in a pattern. -/
structure IsOrdinary (byte : UInt8) : Prop where
  /-- It starts no escape. -/
  ne_backslash : byte ≠ backslash
  /-- It is no place for any byte. -/
  ne_question : byte ≠ question
  /-- It is no star. -/
  ne_asterisk : byte ≠ asterisk
  /-- It starts no bracket expression. -/
  ne_openBracket : byte ≠ openBracket

/-- A pattern begins with a token for one byte, and goes on behind it. -/
inductive Begins : (pattern : Bytes) → Token → (rest : Bytes) → Prop where
  /-- A byte behind a backslash. -/
  | escaped (byte : UInt8) (rest : Bytes) : Begins (backslash :: byte :: rest) (.literal byte) rest
  /-- A question mark. -/
  | anyByte (rest : Bytes) : Begins (question :: rest) .anyByte rest
  /-- A byte that stands for itself. -/
  | itself {byte : UInt8} (hbyte : IsOrdinary byte) (rest : Bytes) :
      Begins (byte :: rest) (.literal byte) rest

variable {pattern rest name : Bytes} {token : Token} {tokens : List Token} {x : UInt8}

/-- **A pattern without brackets begins with a star or with a token for one byte**, or it is empty,
or a backslash ends it. -/
lemma exists_begins (h : hasBracket pattern = false) :
    pattern = [] ∨ pattern = [backslash] ∨ (∃ rest, pattern = asterisk :: rest) ∨
      ∃ token rest, Begins pattern token rest := by
  cases pattern with
  | nil => exact .inl rfl
  | cons first rest =>
    right
    by_cases hbackslash : first = backslash
    · subst hbackslash
      cases rest with
      | nil => exact .inl rfl
      | cons byte rest => exact .inr (.inr ⟨_, _, .escaped byte rest⟩)
    right
    by_cases hasterisk : first = asterisk
    · subst hasterisk
      exact .inl ⟨rest, rfl⟩
    right
    by_cases hquestion : first = question
    · subst hquestion
      exact ⟨_, _, .anyByte rest⟩
    have hopen : first ≠ openBracket := by
      rintro rfl
      cases h
    exact ⟨_, _, .itself ⟨hbackslash, hquestion, hasterisk, hopen⟩ rest⟩

namespace Begins

/-- A pattern is longer than what is behind its first token. -/
lemma length_lt (h : Begins pattern token rest) : rest.length < pattern.length := by
  cases h <;> simp only [List.length_cons] <;> omega

/-- The tokens of a pattern are its first one and those of what is behind it. -/
lemma tokens?_eq (h : Begins pattern token rest) :
    tokens? pattern = (tokens? rest).map (token :: ·) := by
  cases h with
  | escaped byte => rfl
  | anyByte => rfl
  | itself hbyte =>
    simp [tokens?, hbyte.ne_backslash, hbyte.ne_question, hbyte.ne_asterisk]

/-- The first token is no bracket. -/
lemma hasBracket_eq (h : Begins pattern token rest) : hasBracket pattern = hasBracket rest := by
  cases h with
  | escaped byte => rfl
  | anyByte => rfl
  | itself hbyte => simp [hasBracket, hbyte.ne_backslash, hbyte.ne_openBracket]

/-- A token for one byte covers nothing else. -/
lemma covers_iff (h : Begins pattern token rest) {piece : Bytes} :
    token.covers piece ↔ ∃ x, piece = [x] ∧ token.covers [x] := by
  cases h with
  | escaped byte => simp [Token.covers]
  | anyByte => simp [Token.covers, List.length_eq_one_iff]
  | itself hbyte => simp [Token.covers]

end Begins

/-! ### Names that fit -/

/-- No tokens describe the empty name only. -/
lemma describes_nil_iff : Describes [] name ↔ name = [] := by
  constructor
  · rintro ⟨⟩
    rfl
  · rintro rfl
    exact .nil

/-- Tokens describe a name if the first covers a piece of it and the others describe the rest. -/
lemma describes_cons_iff :
    Describes (token :: tokens) name ↔
      ∃ piece tail, name = piece ++ tail ∧ token.covers piece ∧ Describes tokens tail := by
  constructor
  · rintro (_ | ⟨hcovers, hdescribes⟩)
    exact ⟨_, _, rfl, hcovers, hdescribes⟩
  · rintro ⟨piece, tail, rfl, hcovers, hdescribes⟩
    exact .cons hcovers hdescribes

/-- A pattern has tokens, and they describe a name. -/
def Fits (pattern name : Bytes) : Prop :=
  ∃ tokens, tokens? pattern = some tokens ∧ Describes tokens name

/-- The empty pattern fits the empty name only. -/
lemma fits_nil_iff : Fits [] name ↔ name = [] := by
  simp [Fits, tokens?, describes_nil_iff]

/-- A backslash alone fits no name. -/
lemma not_fits_backslash : ¬ Fits [backslash] name := by
  rintro ⟨tokens, htokens, -⟩
  cases htokens

/-- A pattern fits a name if its first token covers a piece of it and what is behind fits the
rest. -/
lemma fits_iff_of_tokens? (h : tokens? pattern = (tokens? rest).map (token :: ·)) :
    Fits pattern name ↔
      ∃ piece tail, name = piece ++ tail ∧ token.covers piece ∧ Fits rest tail := by
  constructor
  · rintro ⟨tokens, htokens, hdescribes⟩
    rw [h, Option.map_eq_some_iff] at htokens
    obtain ⟨others, hothers, rfl⟩ := htokens
    obtain ⟨piece, tail, heq, hcovers, htail⟩ := describes_cons_iff.1 hdescribes
    exact ⟨piece, tail, heq, hcovers, others, hothers, htail⟩
  · rintro ⟨piece, tail, heq, hcovers, others, hothers, htail⟩
    refine ⟨token :: others, ?_, describes_cons_iff.2 ⟨piece, tail, heq, hcovers, htail⟩⟩
    rw [h, hothers]
    rfl

/-- A pattern that begins with a token for one byte does not fit the empty name. -/
lemma Begins.not_fits_nil (h : Begins pattern token rest) : ¬ Fits pattern [] := by
  rw [fits_iff_of_tokens? h.tokens?_eq]
  rintro ⟨piece, tail, heq, hcovers, -⟩
  obtain ⟨x, rfl, -⟩ := h.covers_iff.1 hcovers
  cases heq

/-- **A token for one byte takes the first byte of a name.** -/
lemma Begins.fits_cons_iff (h : Begins pattern token rest) :
    Fits pattern (x :: name) ↔ token.covers [x] ∧ Fits rest name := by
  rw [fits_iff_of_tokens? h.tokens?_eq]
  constructor
  · rintro ⟨piece, tail, heq, hcovers, hfits⟩
    obtain ⟨y, rfl, hy⟩ := h.covers_iff.1 hcovers
    cases heq
    exact ⟨hy, hfits⟩
  · rintro ⟨hcovers, hfits⟩
    exact ⟨[x], name, rfl, hcovers, hfits⟩

/-- **A star takes any bytes that a name starts with.** -/
lemma fits_star_iff :
    Fits (asterisk :: pattern) name ↔ ∃ tail, tail <:+ name ∧ Fits pattern tail := by
  have htokens : tokens? (asterisk :: pattern) = (tokens? pattern).map (.anyBytes :: ·) := rfl
  rw [fits_iff_of_tokens? htokens]
  constructor
  · rintro ⟨piece, tail, rfl, -, hfits⟩
    exact ⟨tail, List.suffix_append piece tail, hfits⟩
  · rintro ⟨tail, ⟨piece, rfl⟩, hfits⟩
    exact ⟨piece, tail, rfl, rfl, hfits⟩

/-- A star takes more bytes if the name has more in front. -/
lemma Fits.star_of_suffix {tail : Bytes} (h : Fits (asterisk :: pattern) tail)
    (htail : tail <:+ name) : Fits (asterisk :: pattern) name := by
  rw [fits_star_iff] at h ⊢
  obtain ⟨last, hlast, hfits⟩ := h
  exact ⟨last, hlast.trans htail, hfits⟩

/-- A star in front of a pattern that fits takes nothing. -/
lemma Fits.star (h : Fits pattern name) : Fits (asterisk :: pattern) name :=
  fits_star_iff.2 ⟨name, List.suffix_rfl, h⟩

/-- In the empty name, a star takes nothing. -/
lemma fits_star_nil_iff : Fits (asterisk :: pattern) [] ↔ Fits pattern [] := by
  simp [fits_star_iff]

/-- A star takes nothing, or the first byte and maybe more. -/
lemma fits_star_cons_iff :
    Fits (asterisk :: pattern) (x :: name) ↔
      Fits pattern (x :: name) ∨ Fits (asterisk :: pattern) name := by
  simp only [fits_star_iff, List.suffix_cons_iff, or_and_right, exists_or, exists_eq_left]

/-- Two stars take what one takes. -/
lemma fits_star_star_iff :
    Fits (asterisk :: asterisk :: pattern) name ↔ Fits (asterisk :: pattern) name := by
  constructor
  · intro h
    obtain ⟨tail, htail, hfits⟩ := fits_star_iff.1 h
    exact hfits.star_of_suffix htail
  · exact Fits.star

/-- A star in front of a question mark takes nothing, or the first byte and maybe more. -/
lemma fits_star_question_cons_iff_or :
    Fits (asterisk :: question :: pattern) (x :: name) ↔
      Fits pattern name ∨ Fits (asterisk :: question :: pattern) name := by
  rw [fits_star_cons_iff, (Begins.anyByte pattern).fits_cons_iff]
  simp [Token.covers]

/-- A question mark behind a star takes the first byte of a name as well as any other. -/
lemma fits_star_question_cons_iff :
    Fits (asterisk :: question :: pattern) (x :: name) ↔ Fits (asterisk :: pattern) name := by
  rw [fits_star_question_cons_iff_or]
  induction name with
  | nil => simp [fits_star_nil_iff, (Begins.anyByte pattern).not_fits_nil]
  | cons y name ih => rw [fits_star_question_cons_iff_or, ih, fits_star_cons_iff]

/-! ### Quoted names -/

/-- A byte outside of ASCII stands for itself. -/
lemma isOrdinary_of_ge (h : 0x80 ≤ x) : IsOrdinary x := by
  constructor <;> rintro rfl <;> exact absurd h (by decide)

/-- Bytes that are literal describe themselves only. -/
lemma describes_literals_iff {other : Bytes} :
    Describes (name.map .literal) other ↔ other = name := by
  induction name generalizing other with
  | nil => exact describes_nil_iff
  | cons x name ih => simp [describes_cons_iff, Token.covers, ih]

/-- A pattern without brackets has these tokens. -/
def Reads (pattern : Bytes) (tokens : List Token) : Prop :=
  hasBracket pattern = false ∧ tokens? pattern = some tokens

/-- A token in front of a pattern is read in front of its tokens. -/
lemma Begins.reads (h : Begins pattern token rest) (hrest : Reads rest tokens) :
    Reads pattern (token :: tokens) := by
  obtain ⟨hbracket, htokens⟩ := hrest
  refine ⟨h.hasBracket_eq.trans hbracket, ?_⟩
  rw [h.tokens?_eq, htokens]
  rfl

/-- Bytes that stand for themselves are read one by one. -/
lemma Reads.append {piece : Bytes} (h : Reads rest tokens) (hpiece : ∀ b ∈ piece, IsOrdinary b) :
    Reads (piece ++ rest) (piece.map .literal ++ tokens) := by
  induction piece with
  | nil => exact h
  | cons b piece ih =>
    obtain ⟨hb, hpiece⟩ := List.forall_mem_cons.1 hpiece
    exact (Begins.itself hb _).reads (ih hpiece)

/-- Chunks with a backslash in front of each are read as their bytes, if only the first byte of each
can be one of ASCII. -/
lemma reads_flatMap {all : List Text.Chunk}
    (h : ∀ c ∈ all, ∃ a rest, c.bytes = a :: rest ∧ ∀ b ∈ rest, 0x80 ≤ b) :
    Reads (all.flatMap fun c => backslash :: c.bytes)
      ((all.flatMap Text.Chunk.bytes).map .literal) := by
  induction all with
  | nil => exact ⟨rfl, rfl⟩
  | cons c all ih =>
    obtain ⟨⟨first, behind, hc, hbehind⟩, hall⟩ := List.forall_mem_cons.1 h
    have hordinary : ∀ b ∈ behind, IsOrdinary b := fun b hb => isOrdinary_of_ge (hbehind b hb)
    rw [List.flatMap_cons, List.flatMap_cons, hc, List.map_append]
    exact (Begins.escaped first _).reads ((ih hall).append hordinary)

/-- **A quoted name is read as its bytes**, each of them literal. -/
lemma reads_quoted (name : Bytes) : Reads (quoted name) (name.map .literal) := by
  have hreads := reads_flatMap fun c (hc : c ∈ Text.chunks name) =>
    Text.exists_bytes_eq_of_mem_chunks hc
  rwa [Text.flatMap_bytes_chunks] at hreads

/-- **A quoted name fits this name and no other.** -/
lemma fits_quoted_iff {other : Bytes} : Fits (quoted name) other ↔ other = name := by
  obtain ⟨-, htokens⟩ := reads_quoted name
  simp [Fits, htokens, describes_literals_iff]

/-- Quoting puts in no NUL. -/
lemma nul_notMem_quoted (h : nul ∉ name) : nul ∉ quoted name := by
  rw [← Text.flatMap_bytes_chunks name] at h
  intro hmem
  obtain ⟨c, hc, hnul⟩ := List.mem_flatMap.1 hmem
  rcases List.mem_cons.1 hnul with heq | hnul
  · exact absurd heq (by decide)
  · exact h (List.mem_flatMap.2 ⟨c, hc, hnul⟩)

end ContainerEntry.Glob
