import Mathlib
import ContainerEntry.Proofs.Basic
import ContainerEntry.SecurityLabel

/-!
# Whose label a process inside a container has

A label names a user, a role, a type and a range.  A range is one level or two with a hyphen between
them, and a level is a sensitivity, with its categories behind a colon if it has any.  So a colon
separates the parts of a label and stands inside its range, too.

* **A label has as many pieces as colons allow** (`count_text`): three in front of the range, one
  for the range, and one more for each of its levels that has categories.
* **What is kept is kept as it is** (`inContainer_eq_ok_iff`): with one piece or two behind the
  type, the pieces are put together again in their order, whatever they are; with fewer or more, the
  label is refused.
* **A second time changes nothing** (`inContainer_bind_inContainer`), since the pieces of the new
  label are those of the old one but for the role and the type.

`keeps_user_and_range_iff` says which labels come through: all but those whose range has two levels
that both have categories.  Such a range is as good as any other, but it has three pieces.
-/

namespace ContainerEntry.SecurityLabel

open Bytes

/-! ### Labels -/

/-- A part of a label. -/
structure Part where
  /-- Its bytes. -/
  bytes : Bytes
  /-- There are some. -/
  ne_nil : bytes ≠ []
  /-- None is a colon. -/
  colon_not_mem : colon ∉ bytes

/-- A part of a level, in which the hyphen that separates levels does not stand either. -/
structure LevelPart extends Part where
  /-- None is a hyphen. -/
  hyphen_not_mem : hyphen ∉ bytes

/-- A level: a sensitivity, perhaps with categories. -/
structure Level where
  /-- The sensitivity. -/
  sensitivity : LevelPart
  /-- The categories. -/
  categories : Option LevelPart

/-- A level as it is written. -/
def Level.text (l : Level) : Bytes :=
  l.sensitivity.bytes ++
    match l.categories with
    | some categories => colon :: categories.bytes
    | none => []

/-- A range: a level, or the levels from one to another. -/
structure Range where
  /-- The lowest level. -/
  low : Level
  /-- The highest level, if it is another. -/
  high : Option Level

/-- A range as it is written. -/
def Range.text (r : Range) : Bytes :=
  r.low.text ++
    match r.high with
    | some high => hyphen :: high.text
    | none => []

/-- Two levels with categories on both of them. -/
def Range.IsCategorizedTwice (r : Range) : Prop :=
  r.low.categories.isSome ∧ ∃ high ∈ r.high, high.categories.isSome

/-- A label of a user, a role, a type and a range. -/
structure Label where
  /-- The user. -/
  user : Part
  /-- The role. -/
  role : Part
  /-- The type. -/
  type : Part
  /-- The range. -/
  range : Range

/-- A label as it is written. -/
def Label.text (l : Label) : Bytes :=
  joinWith [colon] [l.user.bytes, l.role.bytes, l.type.bytes, l.range.text]

/-! ### The colons of a range -/

/-- A level has a colon if it has categories. -/
lemma Level.count_text (l : Level) :
    l.text.count colon = if l.categories.isSome then 1 else 0 := by
  have hsensitivity : l.sensitivity.bytes.count colon = 0 :=
    List.count_eq_zero.2 l.sensitivity.colon_not_mem
  rw [Level.text, List.count_append, hsensitivity]
  cases l.categories with
  | none => rfl
  | some categories =>
    have hcategories : categories.bytes.count colon = 0 :=
      List.count_eq_zero.2 categories.colon_not_mem
    simp [hcategories]

/-- A range has a colon for each of its levels that has categories. -/
lemma Range.count_text (r : Range) :
    r.text.count colon = (if r.low.categories.isSome then 1 else 0) +
      match r.high with
      | some high => if high.categories.isSome then 1 else 0
      | none => 0 := by
  rw [Range.text, List.count_append, Level.count_text]
  cases r.high with
  | none => rfl
  | some high =>
    have hhyphen : hyphen ≠ colon := by decide
    simp only [List.count_cons_of_ne hhyphen, Level.count_text]

/-- A range has more than two pieces if and only if it has two levels, both with categories. -/
lemma Range.two_lt_length_fields_iff (r : Range) :
    2 < (fields colon r.text).length ↔ r.IsCategorizedTwice := by
  rw [length_fields, Range.count_text, Range.IsCategorizedTwice]
  cases r.high with
  | none =>
    have hone : (if r.low.categories.isSome then 1 else 0) ≤ 1 := by split_ifs <;> omega
    simp only [Option.mem_def, reduceCtorEq, false_and, exists_false, and_false, iff_false]
    omega
  | some high =>
    by_cases hlow : r.low.categories.isSome <;> by_cases hhigh : high.categories.isSome <;>
      simp [hlow, hhigh]

/-- The pieces of a label are its user, its role, its type and the pieces of its range. -/
lemma Label.fields_text (l : Label) :
    fields colon l.text =
      l.user.bytes :: l.role.bytes :: l.type.bytes :: fields colon l.range.text := by
  have huser := fields_of_not_mem l.user.colon_not_mem
  have hrole := fields_of_not_mem l.role.colon_not_mem
  have htype := fields_of_not_mem l.type.colon_not_mem
  rw [Label.text, joinWith_cons _ (by simp), joinWith_cons _ (by simp), joinWith_cons _ (by simp),
    fields_append, fields_append, fields_append, huser, hrole, htype]
  rfl

/-! ### Labels inside a container -/

variable {label result : Bytes}

/-- **A label is taken that has one piece or two behind its type**, and the pieces are put together
again, with another role and another type. -/
lemma inContainer_eq_ok_iff :
    inContainer label = .ok result ↔
      ∃ user other kind range, fields colon label = user :: other :: kind :: range ∧
        (range.length = 1 ∨ range.length = 2) ∧
        result = joinWith [colon] (user :: role :: type :: range) := by
  unfold inContainer
  dsimp only
  constructor
  · intro h
    split at h
    · next user other kind a hfields =>
      cases h
      exact ⟨user, other, kind, [a], hfields, .inl rfl, rfl⟩
    · next user other kind a b hfields =>
      cases h
      exact ⟨user, other, kind, [a, b], hfields, .inr rfl, rfl⟩
    · cases h
  · rintro ⟨user, other, kind, range, hfields, hone | htwo, rfl⟩
    · obtain ⟨a, rfl⟩ := List.length_eq_one_iff.1 hone
      simp only [hfields]
    · obtain ⟨a, b, rfl⟩ := List.length_eq_two.1 htwo
      simp only [hfields]

/-- Whatever is not taken is refused as an invalid label. -/
lemma inContainer_eq_error (h : ∀ result, inContainer label ≠ .ok result) :
    inContainer label = .error (.exec "selinux" (.invalidLabel label)) := by
  unfold inContainer at h ⊢
  dsimp only at h ⊢
  split at h
  · exact absurd rfl (h _)
  · exact absurd rfl (h _)
  · rfl

/-- A label with fewer than four pieces is refused. -/
lemma inContainer_of_length_lt (h : (fields colon label).length < 4) :
    inContainer label = .error (.exec "selinux" (.invalidLabel label)) := by
  apply inContainer_eq_error
  intro result hresult
  obtain ⟨user, other, kind, range, hfields, hrange, -⟩ := inContainer_eq_ok_iff.1 hresult
  rw [hfields] at h
  simp only [List.length_cons] at h
  omega

/-- The label of a process inside a container is the one that it has when it starts another inside.
-/
lemma inContainer_of_inContainer (h : inContainer label = .ok result) :
    inContainer result = .ok result := by
  obtain ⟨user, other, kind, range, hfields, hrange, rfl⟩ := inContainer_eq_ok_iff.1 h
  have hpieces : ∀ p ∈ user :: role :: type :: range, colon ∉ p := by
    intro p hp
    have hold : ∀ q ∈ user :: other :: kind :: range, colon ∉ q := by
      intro q hq
      rw [← hfields] at hq
      exact not_mem_of_mem_fields hq
    simp only [List.mem_cons] at hp
    rcases hp with rfl | rfl | rfl | hp
    · exact hold p (by simp)
    · decide
    · decide
    · exact hold p (by simp [hp])
  refine inContainer_eq_ok_iff.2 ⟨user, role, type, range, ?_, hrange, rfl⟩
  exact fields_joinWith (List.cons_ne_nil _ _) hpieces

/-- **A second time changes nothing.** -/
theorem inContainer_bind_inContainer (label : Bytes) :
    (inContainer label).bind inContainer = inContainer label := by
  cases h : inContainer label with
  | error failure => rfl
  | ok result => exact inContainer_of_inContainer h

/-- A user and a range with the role and the type of a container between them. -/
lemma joinWith_role_type (user : Bytes) {range : List Bytes} (h : range ≠ []) :
    joinWith [colon] (user :: role :: type :: range) =
      user ++ ":system_r:spc_t:" ++ joinWith [colon] range := by
  have hmiddle : (":system_r:spc_t:" : Bytes) = colon :: role ++ colon :: type ++ [colon] := by
    decide
  rw [joinWith_cons _ (by simp), joinWith_cons _ (by simp), joinWith_cons _ h, hmiddle]
  simp

/-- A label is taken if and only if its range has at most two pieces, and then its user and its
range are kept. -/
lemma inContainer_text_eq_ok_iff (l : Label) :
    inContainer l.text = .ok result ↔
      ¬ l.range.IsCategorizedTwice ∧
        result = l.user.bytes ++ ":system_r:spc_t:" ++ l.range.text := by
  have hpos : 0 < (fields colon l.range.text).length :=
    List.length_pos_iff.2 (fields_ne_nil colon _)
  have hjoined := joinWith_role_type l.user.bytes (fields_ne_nil colon l.range.text)
  rw [joinWith_fields] at hjoined
  rw [inContainer_eq_ok_iff, ← Range.two_lt_length_fields_iff]
  constructor
  · rintro ⟨user, other, kind, range, hfields, hrange, rfl⟩
    rw [Label.fields_text] at hfields
    cases hfields
    exact ⟨by omega, hjoined⟩
  · rintro ⟨hlength, rfl⟩
    exact ⟨_, _, _, _, l.fields_text, by omega, hjoined.symm⟩

/-- **A process inside a container keeps its caller's user and range, unless the range has two
levels that both have categories.**  The label of the process is the caller's with the role and the
type of a container in place of its own, and it is so if and only if the range is none of those,
whose labels are refused as invalid.  A label made so is the same when it is made again, and
whatever has fewer than four pieces is refused. -/
theorem keeps_user_and_range_iff (l : Label) (label : Bytes) :
    (inContainer l.text = .ok (l.user.bytes ++ ":system_r:spc_t:" ++ l.range.text) ↔
      ¬ l.range.IsCategorizedTwice) ∧
    (inContainer l.text = .error (.exec "selinux" (.invalidLabel l.text)) ↔
      l.range.IsCategorizedTwice) ∧
    (inContainer label).bind inContainer = inContainer label ∧
    ((fields colon label).length < 4 →
      inContainer label = .error (.exec "selinux" (.invalidLabel label))) := by
  refine ⟨?_, ?_, inContainer_bind_inContainer label, inContainer_of_length_lt⟩
  · rw [inContainer_text_eq_ok_iff]
    exact and_iff_left rfl
  · constructor
    · intro h
      by_contra hrange
      rw [(inContainer_text_eq_ok_iff l).2 ⟨hrange, rfl⟩] at h
      cases h
    · intro hrange
      apply inContainer_eq_error
      intro result hresult
      exact ((inContainer_text_eq_ok_iff l).1 hresult).1 hrange

/-- A label of a user whose processes have one category at least, and at most five. -/
def categorizedLabel : Label where
  user := ⟨"user_u", by decide, by decide⟩
  role := ⟨"user_r", by decide, by decide⟩
  type := ⟨"user_t", by decide, by decide⟩
  range := {
    low := ⟨⟨⟨"s0", by decide, by decide⟩, by decide⟩,
      some ⟨⟨"c1", by decide, by decide⟩, by decide⟩⟩
    high := some ⟨⟨⟨"s0", by decide, by decide⟩, by decide⟩,
      some ⟨⟨"c1.c5", by decide, by decide⟩, by decide⟩⟩ }

/-- A label with categories on both of its levels is refused. -/
theorem categorized_twice_refused :
    categorizedLabel.text = "user_u:user_r:user_t:s0:c1-s0:c1.c5" ∧
      inContainer categorizedLabel.text =
        .error (.exec "selinux" (.invalidLabel "user_u:user_r:user_t:s0:c1-s0:c1.c5")) ∧
      inContainer categorizedLabel.text ≠
        .ok (categorizedLabel.user.bytes ++ ":system_r:spc_t:" ++ categorizedLabel.range.text) := by
  have htext : categorizedLabel.text = "user_u:user_r:user_t:s0:c1-s0:c1.c5" := by decide
  have hrefused : inContainer categorizedLabel.text =
      .error (.exec "selinux" (.invalidLabel "user_u:user_r:user_t:s0:c1-s0:c1.c5")) := by rfl
  refine ⟨htext, hrefused, ?_⟩
  rw [hrefused]
  exact fun h => by cases h

end ContainerEntry.SecurityLabel
