import Mathlib
import ContainerEntry.Door.Words
import ContainerEntry.Proofs.Basic

/-!
# Bus labels and the texts that they stand for

A bus label keeps letters and digits and writes every other byte as an underscore and two
hexadecimal digits.  So an underscore always begins an escape, and the reading of a label never has
to guess.  The first byte alone is treated differently, since no label may begin with a digit, and
the empty text has an underscore of its own.

* **Reading back** (`ofBusLabel?_busLabel`): every text is read back from its label, whichever bytes
  its label keeps, because the reader takes any letter and any digit for itself
  (`unescape?_escapeByte`).  So different texts have different labels (`busLabel_injective`).
* **Labels stand in paths** (`isPathElement_busLabel`): a label is not empty, has letters, digits
  and underscores only, and begins with no digit.
* **Identifiers have texts of their own** (`unitName_injective`), because the text of an identifier
  is cut at its hyphens into groups whose lengths are known.
-/

namespace ContainerEntry

open Bytes

/-! ### Hexadecimal digits -/

namespace Text

/-- The digit of a number below sixteen is a small hexadecimal digit, with the number as its value.
-/
lemma hexDigit_spec : ∀ n < 16, isHex (hexDigit n) = true ∧ isAlnum (hexDigit n) = true ∧
    hexValue (hexDigit n) = n := by
  decide

/-- A hexadecimal digit is no hyphen. -/
lemma hyphen_ne_hexDigit : ∀ n < 16, hyphen ≠ hexDigit n := by
  decide

/-- A byte has two halves below sixteen. -/
lemma halves_lt (b : UInt8) : b.toNat / 16 < 16 ∧ b.toNat % 16 < 16 := by
  have hlt : b.toNat < 256 := b.toNat_lt
  omega

/-- The values of a byte's two digits make the byte. -/
lemma ofNat_hexValue (b : UInt8) :
    UInt8.ofNat (16 * hexValue (hexDigit (b.toNat / 16)) + hexValue (hexDigit (b.toNat % 16))) =
      b := by
  obtain ⟨hhigh, hlow⟩ := halves_lt b
  rw [(hexDigit_spec _ hhigh).2.2, (hexDigit_spec _ hlow).2.2, Nat.div_add_mod, UInt8.ofNat_toNat]

/-- Different bytes have different digits. -/
lemma hexByte_injective : Function.Injective hexByte := by
  intro a b h
  obtain ⟨hhigh, hlow⟩ : hexDigit (a.toNat / 16) = hexDigit (b.toNat / 16) ∧
      hexDigit (a.toNat % 16) = hexDigit (b.toNat % 16) := by
    simpa [hexByte] using h
  rw [← ofNat_hexValue a, ← ofNat_hexValue b, hhigh, hlow]

/-- Different byte strings have different digits. -/
lemma hex_injective : Function.Injective hex := by
  intro s
  induction s with
  | nil =>
    intro t h
    cases t with
    | nil => rfl
    | cons b t => cases h
  | cons a s ih =>
    intro t h
    cases t with
    | nil => cases h
    | cons b t =>
      rw [hex, hex, List.flatMap_cons, List.flatMap_cons] at h
      obtain ⟨hbyte, hrest⟩ := List.append_inj h rfl
      rw [hexByte_injective hbyte, ih hrest]

/-- There is no hyphen among hexadecimal digits. -/
lemma hyphen_not_mem_hex (s : Bytes) : hyphen ∉ hex s := by
  intro h
  obtain ⟨b, -, hb⟩ := List.mem_flatMap.1 h
  obtain ⟨hhigh, hlow⟩ := halves_lt b
  rcases (by simpa [hexByte] using hb : hyphen = hexDigit (b.toNat / 16) ∨
    hyphen = hexDigit (b.toNat % 16)) with heq | heq
  · exact hyphen_ne_hexDigit _ hhigh heq
  · exact hyphen_ne_hexDigit _ hlow heq

end Text

namespace Door

open Text

/-! ### Reading labels -/

variable {b : UInt8} {rest label text : Bytes}

/-- A letter or a digit stands for itself. -/
lemma unescape?_cons (hb : isAlnum b = true) :
    unescape? (b :: rest) = (unescape? rest).map (b :: ·) := by
  rw [unescape?.eq_def]
  split
  · next heq => cases heq
  · next heq =>
    cases heq
    cases hb
  · next heq =>
    cases heq
    rw [if_pos hb]

/-- An underscore with two digits behind it stands for a byte. -/
lemma unescape?_hexByte (b : UInt8) (rest : Bytes) :
    unescape? (underscore :: hexByte b ++ rest) = (unescape? rest).map (b :: ·) := by
  obtain ⟨hhigh, hlow⟩ := halves_lt b
  rw [hexByte, List.cons_append, List.cons_append, List.cons_append, List.nil_append,
    unescape?.eq_def]
  change (if isHex (hexDigit _) && isHex (hexDigit _) then _ else none) = _
  rw [(hexDigit_spec _ hhigh).1, (hexDigit_spec _ hlow).1, Bool.and_self, if_pos rfl,
    ofNat_hexValue]

/-- A byte is read back as it stands in a label, whichever letters and digits are kept. -/
lemma unescape?_escapeByte {keep : UInt8 → Bool} (hkeep : keep b = true → isAlnum b = true)
    (rest : Bytes) : unescape? (escapeByte keep b ++ rest) = (unescape? rest).map (b :: ·) := by
  rw [escapeByte]
  split_ifs with hkept
  · exact unescape?_cons (hkeep hkept)
  · exact unescape?_hexByte b rest

/-- A letter is a letter or a digit. -/
lemma isAlnum_of_isAlpha (h : isAlpha b = true) : isAlnum b = true := by
  rw [isAlnum, h, Bool.true_or]

/-- A byte that is kept behind the first is a letter or a digit. -/
lemma isAlnum_of_keepsByte (h : keepsByte b = true) : isAlnum b = true :=
  h

/-- The bytes behind the first are read back. -/
lemma unescape?_flatMap (s : Bytes) : unescape? (s.flatMap (escapeByte keepsByte)) = some s := by
  induction s with
  | nil => rfl
  | cons b s ih =>
    rw [List.flatMap_cons, unescape?_escapeByte isAlnum_of_keepsByte, ih, Option.map_some]

/-- Only the empty text has the label that is a single underscore. -/
lemma escapeByte_append_ne (keep : UInt8 → Bool) (h : keep underscore = false) (rest : Bytes) :
    escapeByte keep b ++ rest ≠ [underscore] := by
  rw [escapeByte]
  split_ifs with hkept
  · intro heq
    cases heq
    rw [h] at hkept
    cases hkept
  · simp [hexByte]

/-- **Every text is read back from its label.** -/
theorem ofBusLabel?_busLabel (text : Bytes) : ofBusLabel? (busLabel text) = some text := by
  cases text with
  | nil => rfl
  | cons first rest =>
    rw [busLabel, ofBusLabel?, if_neg (escapeByte_append_ne isAlpha rfl _),
      unescape?_escapeByte isAlnum_of_isAlpha, unescape?_flatMap, Option.map_some]

/-- **Different texts have different labels.** -/
theorem busLabel_injective : Function.Injective busLabel := by
  intro a b h
  have hread := ofBusLabel?_busLabel a
  rw [h, ofBusLabel?_busLabel] at hread
  exact (Option.some.inj hread).symm

/-! ### Labels in paths -/

/-- What may stand between the slashes of a path on the bus, and begins with no digit. -/
structure IsPathElement (s : Bytes) : Prop where
  /-- It is not empty. -/
  ne_nil : s ≠ []
  /-- It has letters, digits and underscores only. -/
  plain : ∀ b ∈ s, isAlnum b = true ∨ b = underscore
  /-- It begins with no digit. -/
  head_not_digit : ∀ b ∈ s.head?, isDigit b = false

/-- A byte in a label is made of letters, digits and underscores. -/
lemma plain_escapeByte {keep : UInt8 → Bool} (hkeep : keep b = true → isAlnum b = true) :
    ∀ c ∈ escapeByte keep b, isAlnum c = true ∨ c = underscore := by
  intro c hc
  rw [escapeByte] at hc
  split_ifs at hc with hkept
  · rw [List.mem_singleton.1 hc]
    exact .inl (hkeep hkept)
  · obtain ⟨hhigh, hlow⟩ := halves_lt b
    rcases (by simpa [hexByte] using hc : c = underscore ∨ c = hexDigit (b.toNat / 16) ∨
      c = hexDigit (b.toNat % 16)) with rfl | rfl | rfl
    · exact .inr rfl
    · exact .inl (hexDigit_spec _ hhigh).2.1
    · exact .inl (hexDigit_spec _ hlow).2.1

/-- A letter is no digit. -/
lemma isDigit_of_isAlpha (h : isAlpha b = true) : isDigit b = false := by
  simp only [isAlpha, isUpper, isLower, isDigit, Bool.or_eq_true, Bool.and_eq_true,
    decide_eq_true_eq, Bool.and_eq_false_iff, decide_eq_false_iff_not] at h ⊢
  grind

/-- **A label may stand in a path.** -/
theorem isPathElement_busLabel (text : Bytes) : IsPathElement (busLabel text) := by
  cases text with
  | nil => exact ⟨List.cons_ne_nil _ _, by simp [busLabel], by simp [busLabel, isDigit, underscore]⟩
  | cons first rest =>
    have hhead : ∃ b behind, escapeByte isAlpha first = b :: behind ∧ isDigit b = false := by
      rw [escapeByte]
      split_ifs with hletter
      · exact ⟨first, [], rfl, isDigit_of_isAlpha hletter⟩
      · exact ⟨underscore, hexByte first, rfl, rfl⟩
    obtain ⟨b, behind, hescaped, hdigit⟩ := hhead
    refine ⟨?_, fun c hc => ?_, fun c hc => ?_⟩
    · rw [busLabel, hescaped]
      exact List.cons_ne_nil _ _
    · rw [busLabel, List.mem_append, List.mem_flatMap] at hc
      rcases hc with hc | ⟨d, -, hc⟩
      · exact plain_escapeByte isAlnum_of_isAlpha c hc
      · exact plain_escapeByte isAlnum_of_keepsByte c hc
    · rw [busLabel, hescaped] at hc
      cases hc
      exact hdigit

/-! ### The names of units -/

/-- The groups of an identifier make up its bytes. -/
lemma UnitId.eq_of_groups {s t : Bytes} (h₁ : s.take 4 = t.take 4)
    (h₂ : (s.drop 4).take 2 = (t.drop 4).take 2) (h₃ : (s.drop 6).take 2 = (t.drop 6).take 2)
    (h₄ : (s.drop 8).take 2 = (t.drop 8).take 2) (h₅ : s.drop 10 = t.drop 10) : s = t := by
  have hsplit : ∀ u : Bytes, u = u.take 4 ++ ((u.drop 4).take 2 ++ ((u.drop 6).take 2 ++
      ((u.drop 8).take 2 ++ u.drop 10))) := by
    intro u
    have h8 : (u.drop 8).take 2 ++ u.drop 10 = u.drop 8 := by
      simpa using List.take_append_drop 2 (u.drop 8)
    have h6 : (u.drop 6).take 2 ++ u.drop 8 = u.drop 6 := by
      simpa using List.take_append_drop 2 (u.drop 6)
    have h4 : (u.drop 4).take 2 ++ u.drop 6 = u.drop 4 := by
      simpa using List.take_append_drop 2 (u.drop 4)
    rw [h8, h6, h4, List.take_append_drop]
  rw [hsplit s, hsplit t, h₁, h₂, h₃, h₄, h₅]

/-- Different identifiers have different texts. -/
lemma UnitId.text_injective : Function.Injective UnitId.text := by
  intro a b h
  have hcut : ∀ u : Bytes, fields hyphen (joinWith [hyphen]
      [hex (u.take 4), hex ((u.drop 4).take 2), hex ((u.drop 6).take 2), hex ((u.drop 8).take 2),
        hex (u.drop 10)]) =
      [hex (u.take 4), hex ((u.drop 4).take 2), hex ((u.drop 6).take 2), hex ((u.drop 8).take 2),
        hex (u.drop 10)] := by
    intro u
    apply fields_joinWith (List.cons_ne_nil _ _)
    intro p hp
    simp only [List.mem_cons, List.not_mem_nil, or_false] at hp
    rcases hp with rfl | rfl | rfl | rfl | rfl <;> exact hyphen_not_mem_hex _
  have hgroups := congrArg (fields hyphen) h
  rw [UnitId.text, UnitId.text, hcut, hcut] at hgroups
  simp only [List.cons.injEq, hex_injective.eq_iff, and_true] at hgroups
  obtain ⟨h₁, h₂, h₃, h₄, h₅⟩ := hgroups
  cases a
  cases b
  simp only [UnitId.mk.injEq]
  exact UnitId.eq_of_groups h₁ h₂ h₃ h₄ h₅

/-- **Different identifiers name different units.** -/
theorem unitName_injective : Function.Injective unitName := by
  intro a b h
  rw [unitName, unitName, List.append_assoc, List.append_assoc] at h
  exact UnitId.text_injective (List.append_cancel_right (List.append_cancel_left h))

end Door

end ContainerEntry
