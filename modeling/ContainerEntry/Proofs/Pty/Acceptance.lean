import Mathlib
import ContainerEntry.Entry.Spec
import ContainerEntry.Filesystem.Tree
import ContainerEntry.Proofs.Pty.Handoff
import ContainerEntry.Proofs.Text.Utf8

/-!
# Which answers hand a terminal over

The service sends a path and may pad it with NULs, and with it one descriptor.  `check` tests one
thing after another, some of them on the padded bytes and some on the path.

* **The padding comes off** (`trimEndNul_append_replicate`), and nothing else does
  (`exists_eq_trimEndNul_append`): what is left is the path if the path does not end in a NUL itself.
* **An answer is accepted that is a handoff** (`Answer.IsHandoff`): the checks together say what an
  answer looks like, in terms of the path and the descriptor that it brings.

`accepts_exactly` says so of every answer.  A path that holds a NUL can be given to nobody
(`Program.start`, `Filesystem.checked`), so what is said of acceptance is said of the other paths.
-/

namespace ContainerEntry

open Bytes Text

/-! ### Padding -/

namespace Bytes

/-- What comes off at the end are NULs. -/
lemma exists_eq_trimEndNul_append (s : Bytes) : ∃ k, s = trimEndNul s ++ List.replicate k nul := by
  induction s with
  | nil => exact ⟨0, rfl⟩
  | cons b s ih =>
    obtain ⟨k, hk⟩ := ih
    rw [trimEndNul]
    split
    · next hnil =>
      rw [hnil, List.nil_append] at hk
      split_ifs with hb
      · exact ⟨k + 1, by rw [List.nil_append, List.replicate_succ, ← hk, hb]⟩
      · exact ⟨k, by rw [List.singleton_append, ← hk]⟩
    · exact ⟨k, by rw [List.cons_append, ← hk]⟩

/-- Nothing is left of NULs. -/
lemma trimEndNul_replicate (k : Nat) : trimEndNul (List.replicate k nul) = [] := by
  induction k with
  | zero => rfl
  | succ k ih => rw [List.replicate_succ, trimEndNul, ih, if_pos rfl]

/-- The padding comes off. -/
lemma trimEndNul_append_replicate {path : Bytes} (h : nul ∉ path) (k : Nat) :
    trimEndNul (path ++ List.replicate k nul) = path := by
  induction path with
  | nil => exact trimEndNul_replicate k
  | cons b path ih =>
    rw [List.mem_cons, not_or] at h
    obtain ⟨hb, hpath⟩ := h
    rw [List.cons_append, trimEndNul, ih hpath]
    cases path with
    | nil => exact if_neg (Ne.symm hb)
    | cons => rfl

end Bytes

/-! ### Handoffs -/

namespace Pty

/-- An answer that hands a terminal over: all of it arrived, its only control message brings the
descriptor and nothing else, and its bytes are a path, which is a text, and NULs behind it. -/
structure Answer.IsHandoff (a : Answer) (master : Master) : Prop where
  /-- All control data fitted. -/
  control_whole : a.controlTruncated = false
  /-- All bytes fitted. -/
  whole : a.truncated = false
  /-- There are no more bytes than a path may have. -/
  length_le : a.payload.length ≤ maxPath
  /-- The descriptor is all that came with them. -/
  messages_eq : a.messages = [.rights [master.descriptor]]
  /-- The bytes are the path with NULs behind. -/
  payload_eq : ∃ k, a.payload = master.path ++ List.replicate k nul
  /-- There is a path. -/
  path_ne_nil : master.path ≠ []
  /-- The path is a text. -/
  path_isUtf8 : isUtf8 master.path = true

variable {a : Answer} {master : Master}

/-- The only descriptor of the only control message is all that the message is. -/
lemma messages_eq_iff {descriptor : Descriptor} :
    a.messages.length = 1 ∧ a.descriptors = [descriptor] ↔ a.messages = [.rights [descriptor]] := by
  unfold Answer.descriptors
  constructor
  · rintro ⟨hlength, hdescriptors⟩
    obtain ⟨message, hmessage⟩ := List.length_eq_one_iff.1 hlength
    rw [hmessage, List.flatMap_singleton] at hdescriptors
    cases message with
    | rights ds => rw [hmessage, show ds = [descriptor] from hdescriptors]
    | other => cases hdescriptors
  · intro h
    rw [h]
    exact ⟨rfl, rfl⟩

/-- What is accepted is a handoff. -/
lemma Answer.IsAccepted.isHandoff (h : a.IsAccepted master) : a.IsHandoff master := by
  have hpadded := exists_eq_trimEndNul_append a.payload
  rw [h.path_eq] at hpadded
  obtain ⟨k, hk⟩ := hpadded
  refine ⟨h.whole.1, h.whole.2, h.length_le, messages_eq_iff.1 ⟨h.one_message, h.one_descriptor⟩,
    ⟨k, hk⟩, h.path_ne_nil, ?_⟩
  have htext := h.is_text
  rw [hk] at htext
  exact (isUtf8_append_replicate (by decide) master.path k).1 htext

/-- A handoff is accepted whose path holds no NUL. -/
lemma Answer.IsHandoff.isAccepted (h : a.IsHandoff master) (hpath : nul ∉ master.path) :
    a.IsAccepted master := by
  obtain ⟨k, hk⟩ := h.payload_eq
  obtain ⟨hmessage, hdescriptor⟩ := messages_eq_iff.2 h.messages_eq
  refine ⟨⟨h.control_whole, h.whole⟩, h.length_le, hmessage, hdescriptor, ?_, ?_, h.path_ne_nil⟩
  · rw [hk]
    exact (isUtf8_append_replicate (by decide) master.path k).2 h.path_isUtf8
  · rw [hk]
    exact trimEndNul_append_replicate hpath k

/-- A terminal is handed over by what is accepted. -/
lemma result_validate_eq_ok_iff : (validate a).result = .ok master ↔ a.IsAccepted master := by
  rw [← check_eq_ok_iff]
  unfold validate
  cases check a <;> simp

/-- What is refused is refused as a failure of the transport. -/
lemma exists_cause_of_refused {failure : Failure} (h : (validate a).result = .error failure) :
    ∃ cause, failure = .transport cause := by
  unfold validate at h
  split at h
  · cases h
  · next cause _ =>
    cases h
    exact ⟨cause, rfl⟩

/-- A path without NULs makes options without NULs. -/
lemma nul_notMem_ptyOptions {path : Bytes} (hpath : nul ∉ path) {s : Entry.Spec}
    (hs : s.pty = some path) : ∀ word ∈ s.ptyOptions, nul ∉ word := by
  intro word hword
  simp only [Entry.Spec.ptyOptions, hs, List.mem_map] at hword
  obtain ⟨stream, -, rfl⟩ := hword
  have hname : nul ∉ ("--" : Bytes) ++ stream.name ++ [equals] := by cases stream <;> decide
  rw [List.append_cons]
  exact List.not_mem_append hname hpath

/-- **Exactly the handoffs are accepted.**  Whatever an answer is, if it is refused then as a failure
of the transport, and if a terminal is handed over then the answer is a handoff of it.  A terminal
whose path holds no NUL is handed over if and only if the answer is a handoff of it; such a path can be
opened, and given as options to a program. -/
theorem accepts_exactly (a : Answer) :
    (∀ failure, (validate a).result = .error failure → ∃ cause, failure = .transport cause) ∧
    (∀ master, (validate a).result = .ok master → a.IsHandoff master) ∧
    ∀ master, nul ∉ master.path →
      ((validate a).result = .ok master ↔ a.IsHandoff master) ∧
      Filesystem.checked master.path = .ok master.path ∧
      ∀ s : Entry.Spec, s.pty = some master.path → ∀ word ∈ s.ptyOptions, nul ∉ word := by
  have hhandoff : ∀ master, (validate a).result = .ok master → a.IsHandoff master :=
    fun master h => (result_validate_eq_ok_iff.1 h).isHandoff
  refine ⟨fun failure => exists_cause_of_refused, hhandoff, fun master hpath => ⟨?_, ?_, ?_⟩⟩
  · exact ⟨hhandoff master, fun h => result_validate_eq_ok_iff.2 (h.isAccepted hpath)⟩
  · have hplain : master.path.contains nul = false := by simpa using hpath
    rw [Filesystem.checked, if_neg (by rw [hplain]; exact Bool.false_ne_true)]
  · exact fun s hs => nul_notMem_ptyOptions hpath hs

/-- A path of one letter outside ASCII is accepted, and so is one with a NUL inside. -/
theorem accented_path_accepted :
    (validate ⟨[0xc3, 0xa9], false, false, [.rights [5]]⟩).result = .ok ⟨[0xc3, 0xa9], 5⟩ ∧
      ¬ (∀ b ∈ ([0xc3, 0xa9] : Bytes), b < 0x80) ∧
      (validate ⟨[0x61, nul, 0x62], false, false, [.rights [5]]⟩).result =
        .ok ⟨[0x61, nul, 0x62], 5⟩ := by
  exact ⟨rfl, fun h => absurd (h 0xc3 List.mem_cons_self) (by decide), rfl⟩

end Pty

end ContainerEntry
