import Mathlib
import ContainerEntry.Relay.Drive

/-!
# The end of a workload, as both doors report it

Behind one door a workload's end is read from a status word, behind the other from a unit's pair of
a code and a status.  What a status word says is told here by its bits, the way the system's own
macros tell it: the lowest seven hold a signal, the second byte a code.

* **Reading a word** (`decode?_of_exit`, `decode?_of_death`, `ofRaw_of_pause`): the division by which
  a word is decoded finds what the bits say, but a signal only within the classic range.
* **Every death can be reported** (`reportsDeath_killWord`), with a core dump and without.

`doors_agree` compares the doors over all words.  They agree on every exit, and on a death exactly
up to the last classic signal; the real-time signals behind it cannot be read from a word, and then
the workload's end is lost.
-/

namespace ContainerEntry

namespace WaitStatus

/-! ### What the bits of a word say -/

/-- The word reports an exit with a code. -/
def ReportsExit (raw : UInt32) (code : Nat) : Prop :=
  raw &&& 0x7f = 0 ∧ (raw >>> 8 &&& 0xff).toNat = code

/-- The word reports a death by a signal: its lowest seven bits, plus one, are at least two as a
signed byte, and they are the signal. -/
def ReportsDeath (raw : UInt32) (signal : Nat) : Prop :=
  2 ≤ ((raw &&& 0x7f) + 1).toUInt8.toInt8 ∧ (raw &&& 0x7f).toNat = signal

/-- The word reports a stop. -/
def ReportsStop (raw : UInt32) : Prop := raw &&& 0xff = 0x7f

/-- The word reports a continuation. -/
def ReportsContinuation (raw : UInt32) : Prop := raw = 0xffff

variable {raw : UInt32} {code signal : Nat}

/-- A mask of low bits takes a remainder. -/
lemma toNat_and_mask {mask : UInt32} {n : Nat} (hmask : mask.toNat = 2 ^ n - 1) (raw : UInt32) :
    (raw &&& mask).toNat = raw.toNat % 2 ^ n := by
  rw [UInt32.toNat_and, hmask, Nat.and_two_pow_sub_one_eq_mod]

/-- The second byte is found by a shift and a mask. -/
lemma toNat_secondByte (raw : UInt32) :
    (raw >>> 8 &&& 0xff).toNat = raw.toNat / 256 % 256 := by
  rw [toNat_and_mask (n := 8) rfl, UInt32.toNat_shiftRight, Nat.shiftRight_eq_div_pow]
  rfl

/-- Seven bits plus one are at least two as a signed byte, unless none or all of them are set. -/
lemma two_le_signedByte_iff {low : Nat} (hlow : low < 128) :
    2 ≤ (UInt32.ofNat low + 1).toUInt8.toInt8 ↔ 0 < low ∧ low < 127 := by
  have hall : ∀ n : Fin 128, 2 ≤ (UInt32.ofNat n + 1).toUInt8.toInt8 ↔ 0 < n.val ∧ n.val < 127 := by
    decide
  exact hall ⟨low, hlow⟩

/-- The word of an exit has no signal, and the code in its second byte. -/
lemma reportsExit_iff :
    ReportsExit raw code ↔ raw.toNat % 128 = 0 ∧ raw.toNat / 256 % 256 = code := by
  rw [ReportsExit, ← UInt32.toNat_inj, toNat_and_mask (n := 7) rfl, toNat_secondByte]
  rfl

/-- The word of a death has a signal, which is neither 0 nor 127. -/
lemma reportsDeath_iff :
    ReportsDeath raw signal ↔ raw.toNat % 128 = signal ∧ 0 < signal ∧ signal < 127 := by
  have hlow : (raw &&& 0x7f).toNat = raw.toNat % 128 := toNat_and_mask (n := 7) rfl raw
  have hbyte := two_le_signedByte_iff (Nat.mod_lt raw.toNat (Nat.zero_lt_succ 127))
  rw [← hlow, UInt32.ofNat_toNat, hlow] at hbyte
  rw [ReportsDeath, hbyte, hlow]
  constructor
  · rintro ⟨hrange, rfl⟩
    exact ⟨rfl, hrange⟩
  · rintro ⟨rfl, hrange⟩
    exact ⟨hrange, rfl⟩

/-- The word of a stop has all of its lowest seven bits set, and not the eighth. -/
lemma reportsStop_iff : ReportsStop raw ↔ raw.toNat % 256 = 127 := by
  rw [ReportsStop, ← UInt32.toNat_inj, toNat_and_mask (n := 8) rfl]
  rfl

/-! ### Words that the system makes -/

/-- Every signal has words that report death by it, with a core dump and without. -/
lemma reportsDeath_killWord (hsignal : 0 < signal ∧ signal < 127) (core : Bool) :
    ReportsDeath (killWord signal core) signal := by
  have hword : (killWord signal core).toNat = signal + if core then 128 else 0 :=
    UInt32.toNat_ofNat_of_lt' (by change _ < 2 ^ 32; split <;> omega)
  rw [reportsDeath_iff, hword]
  refine ⟨?_, hsignal⟩
  split <;> omega

/-! ### Reading a word -/

/-- An exit is read with its code. -/
lemma decode?_of_exit (h : ReportsExit raw code) : decode? raw = some (.exited code) := by
  obtain ⟨hlow, hsecond⟩ := reportsExit_iff.1 h
  rw [decode?, if_pos hlow, hsecond]

/-- A death is read if there is such a classic signal. -/
lemma decode?_of_death (h : ReportsDeath raw signal) :
    decode? raw =
      (Signal.ofNumber? signal).map (.signaled · (decide (raw.toNat / 128 % 2 = 1))) := by
  obtain ⟨hlow, hpos, hlt⟩ := reportsDeath_iff.1 h
  have hne : signal ≠ 0 := Nat.pos_iff_ne_zero.1 hpos
  rw [decode?, hlow, if_neg hne, if_pos hlt]

end WaitStatus

open WaitStatus

/-- A number is that of a classic signal up to 31. -/
lemma Signal.ofNumber?_of_le {n : Nat} (hpos : 0 < n) (hle : n ≤ 31) :
    ofNumber? n = some ⟨n, hpos, hle⟩ :=
  dif_pos ⟨hpos, hle⟩

/-- A number above 31 is that of no classic signal. -/
lemma Signal.ofNumber?_of_lt {n : Nat} (hlt : 31 < n) : ofNumber? n = none :=
  dif_neg fun h => Nat.not_lt.2 h.2 hlt

namespace ExitStatus

variable {raw : UInt32} {code signal : Nat}

/-- The end that a word of an exit reports. -/
lemma ofRaw_of_exit (pid : Int) (h : ReportsExit raw code) :
    ofRaw pid raw = .ok (.exited code) := by
  rw [ofRaw, decode?_of_exit h]
  rfl

/-- The end that a word of a death reports: none, for a signal above the classic ones. -/
lemma ofRaw_of_death (pid : Int) (h : ReportsDeath raw signal) :
    ofRaw pid raw =
      if signal ≤ 31 then .ok (.killed signal) else .error (.wait (.waiting pid .invalid)) := by
  obtain ⟨-, hpos, -⟩ := reportsDeath_iff.1 h
  rw [ofRaw, decode?_of_death h]
  split_ifs with hle
  · rw [Signal.ofNumber?_of_le hpos hle]
    rfl
  · rw [Signal.ofNumber?_of_lt (Nat.not_le.1 hle)]
    rfl

/-- A word of a stop or of a continuation reports no end. -/
lemma ofRaw_of_pause (pid : Int) (h : ReportsStop raw ∨ ReportsContinuation raw) :
    ∃ cause, ofRaw pid raw = .error (.wait cause) := by
  have hlow : raw.toNat % 128 = 127 := by
    rcases h with h | rfl
    · have := reportsStop_iff.1 h
      omega
    · rfl
  have hne : raw.toNat % 128 ≠ 0 := by omega
  have hle : ¬ raw.toNat % 128 < 127 := by omega
  rw [ofRaw, decode?, if_neg hne, if_neg hle]
  -- A stop by a signal above the classic ones cannot be read, which is a failed wait as well.
  split_ifs with hstop hcall hhalf
  · exact ⟨_, rfl⟩
  · cases Signal.ofNumber? (raw.toNat / 256 % 256) <;> exact ⟨_, rfl⟩
  · cases Signal.ofNumber? (raw.toNat / 256 % 256) <;> exact ⟨_, rfl⟩
  · exact ⟨_, rfl⟩

/-! ### Both doors -/

/-- The codes by which a unit reports that a signal killed its process, without a core dump and with
one. -/
def deathCodes : List Int := [2, 3]

/-- A unit's end is a death by a signal under either code of a death. -/
lemma ofUnit_of_death {how : Int} (h : how ∈ deathCodes) (signal : Int) :
    ofUnit how signal = .killed signal := by
  refine if_neg ?_
  rintro rfl
  revert h
  decide

/-- **Both doors report the same end, unless a real-time signal was the cause.**  An exit with a code
is the same end behind both, and the session's code is that code.  A death by a signal is the same
end, with 128 and the signal as the session's code, if and only if the signal is a classic one: the
other door reports every death.  A stop or a continuation is no end at all, and the code is 1. -/
theorem doors_agree (pid : Int) (raw : UInt32) :
    (∀ code, ReportsExit raw code →
      code ≤ 255 ∧ ofRaw pid raw = .ok (ofUnit exitedCode code) ∧
      Relay.exitCode (ofRaw pid raw) = .ok code) ∧
    (∀ signal, ReportsDeath raw signal → ∀ how ∈ deathCodes,
      Relay.exitCode (.ok (ofUnit how signal)) = .ok (128 + signal) ∧
      (ofRaw pid raw = .ok (ofUnit how signal) ↔ signal ≤ 31) ∧
      (Relay.exitCode (ofRaw pid raw) = .ok (128 + signal) ↔ signal ≤ 31)) ∧
    (ReportsStop raw ∨ ReportsContinuation raw →
      ∃ cause, ofRaw pid raw = .error (.wait cause) ∧ Relay.exitCode (ofRaw pid raw) = .ok 1) := by
  refine ⟨fun code h => ?_, fun signal h how hhow => ?_, fun h => ?_⟩
  · obtain ⟨-, hcode⟩ := reportsExit_iff.1 h
    have hlt : raw.toNat / 256 % 256 < 256 := Nat.mod_lt _ (by decide)
    rw [ofRaw_of_exit pid h]
    exact ⟨by omega, rfl, rfl⟩
  · rw [ofUnit_of_death hhow, ofRaw_of_death pid h]
    refine ⟨rfl, ?_⟩
    by_cases hle : signal ≤ 31
    · rw [if_pos hle]
      exact ⟨iff_of_true rfl hle, iff_of_true rfl hle⟩
    · rw [if_neg hle]
      refine ⟨iff_of_false (fun heq => by cases heq) hle, iff_of_false (fun heq => ?_) hle⟩
      have hone : (1 : Int) = 128 + signal := Except.ok.inj heq
      omega
  · obtain ⟨cause, hcause⟩ := ofRaw_of_pause pid h
    exact ⟨cause, hcause, by rw [hcause]; rfl⟩

/-- A segmentation fault with a core dump is one end behind both doors. -/
theorem doors_agree_coreDump :
    ReportsDeath (killWord 11 true) 11 ∧ (3 : Int) ∈ deathCodes ∧
      ofRaw 7 (killWord 11 true) = .ok (ofUnit 3 11) ∧
      Relay.exitCode (ofRaw 7 (killWord 11 true)) = .ok 139 := by
  have hdeath : ReportsDeath (killWord 11 true) 11 := reportsDeath_killWord (by decide) true
  obtain ⟨-, hsame, hcode⟩ := (doors_agree 7 (killWord 11 true)).2.1 11 hdeath 3 (by decide)
  exact ⟨hdeath, by decide, hsame.2 (by decide), hcode.2 (by decide)⟩

/-- A death by the first real-time signal is an end behind one door, and the session's code is 162;
behind the other the wait fails, and the code is 1. -/
theorem doors_disagree_realTime :
    ReportsDeath (killWord 34 false) 34 ∧ (2 : Int) ∈ deathCodes ∧
      ofUnit 2 34 = .killed 34 ∧ Relay.exitCode (.ok (ofUnit 2 34)) = .ok 162 ∧
      ofRaw 7 (killWord 34 false) = .error (.wait (.waiting 7 .invalid)) ∧
      Relay.exitCode (ofRaw 7 (killWord 34 false)) = .ok 1 := by
  have hdeath : ReportsDeath (killWord 34 false) 34 := reportsDeath_killWord (by decide) false
  have hraw := ofRaw_of_death 7 hdeath
  exact ⟨hdeath, by decide, rfl, rfl, hraw, by rw [hraw]; rfl⟩

end ExitStatus

end ContainerEntry
