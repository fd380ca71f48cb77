import Mathlib
import ContainerEntry.Text.Utf8

/-!
# Text is its own display form

A byte string that is UTF-8 is shown as it is, and what is shown is always UTF-8.  Both follow from
the grammar that the cutting into chunks implements: a text is one encoding of a scalar value after
another.

* **Chunks that are not broken are encodings** (`isEncoding_of_mem_chunks`), and an encoding in
  front of anything is cut off as one chunk (`chunks_append_of_isEncoding`), so a byte string is
  UTF-8 if and only if it is a text (`isUtf8_iff`), texts put together are one
  (`isUtf8_append`), and ASCII behind a byte string decides nothing (`isUtf8_append_replicate`).
* **ASCII is never inside of a chunk** (`exists_bytes_eq_of_mem_chunks`): it only begins one.
* **A text is displayed as it is**, and nothing else is (`display_eq_self_iff`).
* **What is displayed is a text** (`isUtf8_display`), and it is nothing only if there was nothing
  (`display_ne_nil`).
-/

namespace ContainerEntry.Text

open Bytes

/-! ### The grammar -/

/-- The encoding of one scalar value. -/
inductive IsEncoding : Bytes → Prop where
  /-- A byte that is an encoding. -/
  | one {a : UInt8} (ha : Lead.of a = .single) : IsEncoding [a]
  /-- A lead and a second byte in its range. -/
  | two {a b lo hi : UInt8} (ha : Lead.of a = .multi lo hi 0) (hb : ¬ (b < lo || hi < b)) :
    IsEncoding [a, b]
  /-- A lead, a second byte in its range and another one. -/
  | three {a b c lo hi : UInt8} (ha : Lead.of a = .multi lo hi 1) (hb : ¬ (b < lo || hi < b))
    (hc : isContinuation c) : IsEncoding [a, b, c]
  /-- A lead, a second byte in its range and two more. -/
  | four {a b c d lo hi : UInt8} (ha : Lead.of a = .multi lo hi 2) (hb : ¬ (b < lo || hi < b))
    (hc : isContinuation c) (hd : isContinuation d) : IsEncoding [a, b, c, d]

/-- Encodings one after another. -/
inductive IsText : Bytes → Prop where
  /-- There is none. -/
  | nil : IsText []
  /-- There is one, and others behind it. -/
  | cons {b s : Bytes} (hb : IsEncoding b) (hs : IsText s) : IsText (b ++ s)

/-- No lead is followed by more than three bytes. -/
lemma Lead.more_le {a lo hi : UInt8} {more : Nat} (h : Lead.of a = .multi lo hi more) :
    more ≤ 2 := by
  unfold Lead.of at h
  split_ifs at h <;> cases h <;> decide

/-- An encoding is cut off as one chunk. -/
lemma chunks_append_of_isEncoding {b : Bytes} (h : IsEncoding b) (t : Bytes) :
    chunks (b ++ t) = .scalar b :: chunks t := by
  cases h with
  | one ha => simp [chunks, ha]
  | two ha hb =>
    simp only [List.cons_append, List.nil_append]
    rw [chunks]
    simp only [ha, hb]
    rfl
  | three ha hb hc =>
    simp only [List.cons_append, List.nil_append]
    rw [chunks]
    simp only [ha, hb, hc]
    rfl
  | four ha hb hc hd =>
    simp only [List.cons_append, List.nil_append]
    rw [chunks]
    simp only [ha, hb, hc, hd]
    rfl

/-- A chunk that is not broken is an encoding. -/
lemma isEncoding_of_mem_chunks {s b : Bytes} (h : .scalar b ∈ chunks s) : IsEncoding b := by
  fun_induction chunks s
  all_goals simp only [List.mem_cons, List.not_mem_nil, Chunk.scalar.injEq, reduceCtorEq, false_or,
    or_false] at h
  case case2 ha ih =>
    rcases h with rfl | h
    · exact .one ha
    · exact ih h
  case case6 hb ha ih =>
    rcases h with rfl | h
    · exact .two ha hb
    · exact ih h
  case case8 hb _ _ hc ha ih =>
    rcases h with rfl | h
    · exact .three ha hb hc
    · exact ih h
  case case12 more ha _ hb _ hc _ _ hd hzero hone ih =>
    rcases h with rfl | h
    · have hle := Lead.more_le ha
      obtain rfl : more = 2 := by
        rw [imp_false] at hzero hone
        omega
      exact .four ha hb hc hd
    · exact ih h
  all_goals
    rename_i ih
    exact ih h

/-- The chunks are the byte string cut up. -/
lemma flatMap_bytes_chunks (s : Bytes) : (chunks s).flatMap Chunk.bytes = s := by
  fun_induction chunks s <;>
    simp only [List.flatMap_cons, List.flatMap_nil, Chunk.bytes, List.cons_append, List.nil_append,
      *]

/-- Encodings put together are a text. -/
lemma isText_flatMap {all : List Chunk} {encode : Chunk → Bytes}
    (h : ∀ c ∈ all, IsEncoding (encode c)) : IsText (all.flatMap encode) := by
  induction all with
  | nil => exact .nil
  | cons c all ih =>
    obtain ⟨hc, hall⟩ := List.forall_mem_cons.1 h
    exact .cons hc (ih hall)

/-- A byte string is UTF-8 exactly when it is one encoding after another. -/
lemma isUtf8_iff (s : Bytes) : isUtf8 s ↔ IsText s := by
  constructor
  · intro h
    rw [← flatMap_bytes_chunks s]
    refine isText_flatMap fun c hc => ?_
    have hscalar := List.all_eq_true.1 h c hc
    cases c with
    | scalar b => exact isEncoding_of_mem_chunks hc
    | broken b => cases hscalar
  · intro h
    unfold isUtf8
    induction h with
    | nil => rfl
    | cons hb _ ih =>
      rw [chunks_append_of_isEncoding hb, List.all_cons, ih]
      rfl

/-- Texts put together are a text. -/
lemma isUtf8_append {s t : Bytes} (hs : isUtf8 s) (ht : isUtf8 t) : isUtf8 (s ++ t) := by
  rw [isUtf8_iff] at hs ht ⊢
  induction hs with
  | nil => exact ht
  | cons hb _ ih =>
    rw [List.append_assoc]
    exact .cons hb ih

/-- A byte of ASCII in front of a text. -/
lemma isUtf8_cons {a : UInt8} {s : Bytes} (ha : a < 0x80) (hs : isUtf8 s) : isUtf8 (a :: s) := by
  rw [isUtf8_iff] at hs ⊢
  have hlead : Lead.of a = .single := by
    unfold Lead.of
    rw [if_pos ha]
  exact .cons (.one hlead) hs

/-- What consists of ASCII is a text. -/
lemma isUtf8_of_ascii {s : Bytes} (h : ∀ a ∈ s, a < 0x80) : isUtf8 s := by
  induction s with
  | nil => rfl
  | cons a s ih =>
    obtain ⟨ha, hs⟩ := List.forall_mem_cons.1 h
    exact isUtf8_cons ha (ih hs)

/-- The second byte of an encoding is no byte of ASCII. -/
lemma Lead.lo_ge {a lo hi : UInt8} {more : Nat} (h : Lead.of a = .multi lo hi more) :
    0x80 ≤ lo := by
  unfold Lead.of at h
  split_ifs at h <;> cases h <;> decide

/-- A byte in the range of the second is no byte of ASCII. -/
lemma Lead.ge_of_multi {a b lo hi : UInt8} {more : Nat} (ha : Lead.of a = .multi lo hi more)
    (hb : ¬ (b < lo || hi < b)) : 0x80 ≤ b := by
  simp only [Bool.or_eq_true, decide_eq_true_eq, not_or, UInt8.not_lt] at hb
  exact UInt8.le_trans (Lead.lo_ge ha) hb.1

/-- A byte that continues an encoding is no byte of ASCII. -/
lemma ge_of_isContinuation {b : UInt8} (h : isContinuation b) : 0x80 ≤ b := by
  simp only [isContinuation, Bool.and_eq_true, decide_eq_true_eq] at h
  exact h.1

/-- **A byte of ASCII is only ever the first of a chunk**, be it broken or not. -/
lemma exists_bytes_eq_of_mem_chunks {s : Bytes} {c : Chunk} (h : c ∈ chunks s) :
    ∃ a rest, c.bytes = a :: rest ∧ ∀ b ∈ rest, 0x80 ≤ b := by
  -- Each step of the cutting takes off one chunk, whose later bytes it has looked at.
  fun_induction chunks s <;> grind [Chunk.bytes, Lead.ge_of_multi, ge_of_isContinuation]

/-- An encoding is one byte, or ends in a byte that is none of ASCII. -/
lemma IsEncoding.one_or_last {b : Bytes} (h : IsEncoding b) :
    (∃ a, b = [a]) ∨ ∃ s a, b = s ++ [a] ∧ 0x80 ≤ a := by
  cases h with
  | one => exact .inl ⟨_, rfl⟩
  | two ha hb => exact .inr ⟨[_], _, rfl, Lead.ge_of_multi ha hb⟩
  | three _ _ hc => exact .inr ⟨[_, _], _, rfl, ge_of_isContinuation hc⟩
  | four _ _ _ hd => exact .inr ⟨[_, _, _], _, rfl, ge_of_isContinuation hd⟩

/-- A text that ends in a byte of ASCII is a text without it. -/
lemma IsText.of_append_ascii {s : Bytes} {a : UInt8} (h : IsText (s ++ [a])) (ha : a < 0x80) :
    IsText s := by
  generalize hu : s ++ [a] = u at h
  induction h generalizing s with
  | nil => simp at hu
  | @cons b t hb ht ih =>
    rcases List.eq_nil_or_concat t with rfl | ⟨t, c, rfl⟩
    · rw [List.append_nil] at hu
      rcases hb.one_or_last with ⟨c, rfl⟩ | ⟨v, c, rfl, hc⟩
      · have hsingle : s ++ [a] = [] ++ [c] := hu
        obtain ⟨rfl, -⟩ := List.append_inj' hsingle rfl
        exact .nil
      · obtain ⟨-, hlast⟩ := List.append_inj' hu rfl
        cases hlast
        exact absurd hc (UInt8.not_le.2 ha)
    · rw [List.concat_eq_append, ← List.append_assoc] at hu
      obtain ⟨rfl, hlast⟩ := List.append_inj' hu rfl
      cases hlast
      exact .cons hb (ih List.concat_eq_append.symm)

/-- Bytes of ASCII behind a byte string decide nothing. -/
lemma isUtf8_append_replicate {a : UInt8} (ha : a < 0x80) (s : Bytes) (n : Nat) :
    isUtf8 (s ++ List.replicate n a) ↔ isUtf8 s := by
  constructor
  · intro h
    rw [isUtf8_iff] at h ⊢
    induction n with
    | zero => simpa using h
    | succ n ih =>
      rw [List.replicate_succ', ← List.append_assoc] at h
      exact ih (h.of_append_ascii ha)
  · intro h
    refine isUtf8_append h (isUtf8_of_ascii fun c hc => ?_)
    rwa [List.eq_of_mem_replicate hc]

/-! ### The display form -/

/-- A text is displayed as it is. -/
lemma display_eq_self {s : Bytes} (h : isUtf8 s) : display s = s := by
  conv_rhs => rw [← flatMap_bytes_chunks s]
  unfold display
  refine List.flatMap_congr fun c hc => ?_
  have hscalar := List.all_eq_true.1 h c hc
  cases c with
  | scalar b => rfl
  | broken b => cases hscalar

/-- What is displayed is a text. -/
lemma isUtf8_display (s : Bytes) : isUtf8 (display s) := by
  rw [isUtf8_iff]
  refine isText_flatMap fun c hc => ?_
  cases c with
  | scalar b => exact isEncoding_of_mem_chunks hc
  | broken b =>
    have hlead : Lead.of 0xef = .multi 0x80 0xbf 1 := rfl
    exact .three hlead (by decide) rfl

/-- Nothing else than texts is displayed as it is. -/
lemma display_eq_self_iff {s : Bytes} : display s = s ↔ isUtf8 s := by
  constructor
  · intro h
    rw [← h]
    exact isUtf8_display s
  · exact display_eq_self

/-- A byte of ASCII is displayed as it is, whatever follows. -/
lemma display_cons {a : UInt8} (ha : a < 0x80) (s : Bytes) : display (a :: s) = a :: display s := by
  have hlead : Lead.of a = .single := by
    unfold Lead.of
    rw [if_pos ha]
  simp [display, chunks, hlead]

/-- Something is displayed of everything. -/
lemma display_ne_nil {s : Bytes} (h : s ≠ []) : display s ≠ [] := by
  intro hnil
  apply h
  rw [← flatMap_bytes_chunks s, List.flatMap_eq_nil_iff]
  intro c hc
  have hshown := List.flatMap_eq_nil_iff.1 hnil c hc
  cases c with
  | scalar b => exact hshown
  | broken b => cases hshown

end ContainerEntry.Text
