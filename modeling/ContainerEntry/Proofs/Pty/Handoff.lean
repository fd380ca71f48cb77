import Mathlib
import ContainerEntry.Pty.Channel

/-!
# Descriptors that a reply leaves behind

The system installs descriptors in the client as soon as a reply arrives, before the client has
looked at it.  So every way out of `receive` has to account for them: a refusal closes them all, and
an acceptance hands on the only one there is (`Handoff.Conserves`).

* **What an accepted answer looks like** (`check_eq_ok_iff`).
* **An answer that can be read is accounted for** (`validate_conserves`), whatever its flags and its
  control messages are, because its descriptors are owned before anything is checked.
* **A terminal comes from an accepted answer** (`result_receive_eq_ok_iff`).
* **A marked reply cannot be read**, and what was installed for it stays open.

`receive_conserves_iff` puts the three together: over every run of attempts, descriptors are
accounted for unless a marked reply brought some.  The last part carries this to a connection.
-/

namespace ContainerEntry.Pty

open Bytes Text

/-- Whether a handoff accounts for descriptors: a refusal closes each of them, and an acceptance
hands on the only one and closes none. -/
def Handoff.Conserves (h : Handoff) (installed : List Descriptor) : Prop :=
  match h.result with
  | .error _ => h.closed = installed
  | .ok master => installed = [master.descriptor] ∧ h.closed = []

/-! ### Answers -/

/-- What an answer has to be for a terminal to be handed over. -/
structure Answer.IsAccepted (a : Answer) (master : Master) : Prop where
  /-- All of it fitted. -/
  whole : a.controlTruncated = false ∧ a.truncated = false
  /-- It is no longer than a terminal's path. -/
  length_le : a.payload.length ≤ maxPath
  /-- It has one control message. -/
  one_message : a.messages.length = 1
  /-- The message has one descriptor. -/
  one_descriptor : a.descriptors = [master.descriptor]
  /-- It is a text. -/
  is_text : isUtf8 a.payload = true
  /-- It is the path, with NULs behind. -/
  path_eq : trimEndNul a.payload = master.path
  /-- There is a path. -/
  path_ne_nil : master.path ≠ []

/-- **An answer is accepted if and only if all checks pass.** -/
lemma check_eq_ok_iff {a : Answer} {master : Master} :
    check a = .ok master ↔ a.IsAccepted master := by
  constructor
  · intro h
    unfold check at h
    split_ifs at h with hcut htruncated hmessages htext
    · split at h <;> cases h
    split at h
    · next descriptor hdescriptors =>
      split at h
      · cases h
      · next path hpath =>
        cases h
        simp only [Bool.or_eq_true, decide_eq_true_eq, not_or, not_lt, Bool.not_eq_true]
          at htruncated
        exact ⟨⟨by simpa using hcut, htruncated.1⟩, htruncated.2, by simpa using hmessages,
          hdescriptors, by simpa using htext, rfl, hpath⟩
    · cases h
  · intro h
    obtain ⟨⟨hcut, htruncated⟩, hlength, hmessages, hdescriptors, htext, hpath, hne⟩ := h
    have hlength' : ¬ maxPath < a.payload.length := Nat.not_lt.2 hlength
    simp only [check, hcut, htruncated, hlength', hmessages, hdescriptors, htext, hpath]
    cases hmaster : master.path with
    | nil => exact absurd hmaster hne
    | cons b path =>
      cases master
      cases hmaster
      rfl

/-- **Whatever the answer is, its descriptors are accounted for.** -/
lemma validate_conserves (a : Answer) : (validate a).Conserves a.descriptors := by
  unfold validate
  cases hcheck : check a with
  | error cause => rfl
  | ok master => exact ⟨(check_eq_ok_iff.1 hcheck).one_descriptor, rfl⟩

/-! ### Replies -/

namespace Reply

variable {r : Reply}

/-- All descriptors of an unmarked reply are installed. -/
lemma installed_of_unmarked (h : r.isMarked = false) : r.installed = r.answer.descriptors := by
  have hfits : r.sent.length ≤ slots := by
    simp only [isMarked, Bool.or_eq_false_iff, decide_eq_false_iff_not] at h
    exact Nat.not_lt.1 h.2
  exact List.take_of_length_le hfits

/-- Only a marked reply that brings descriptors leaves some behind. -/
lemma handoff_conserves_iff (r : Reply) :
    r.handoff.Conserves r.installed ↔ (r.isMarked = false ∨ r.installed = []) := by
  unfold handoff
  cases hmarked : r.isMarked with
  | true =>
    constructor
    · intro h
      exact .inr h.symm
    · rintro (h | h)
      · cases h
      · exact h.symm
  | false =>
    rw [installed_of_unmarked hmarked]
    exact iff_of_true (validate_conserves r.answer) (.inl rfl)

end Reply

/-! ### Runs of attempts -/

/-- The reply that arrives in a run of attempts, if one does. -/
def arrival? : List Attempt → Option Reply
  | [] => none
  | .arrived reply :: _ => some reply
  | .failed errno :: rest => if errno = .interrupted then arrival? rest else none

/-- The descriptors that the system installs in a run of attempts. -/
def installedBy (attempts : List Attempt) : List Descriptor :=
  ((arrival? attempts).map Reply.installed).getD []

/-- **A run of attempts hands a terminal over if and only if it brings an answer that is accepted.**
-/
lemma result_receive_eq_ok_iff {attempts : List Attempt} {master : Master} :
    (receive attempts).result = .ok master ↔ ∃ r ∈ arrival? attempts, r.answer.IsAccepted master := by
  induction attempts with
  | nil => simp [receive, arrival?]
  | cons attempt rest ih =>
    cases attempt with
    | arrived r =>
      have hresult : r.handoff.result = .ok master ↔ r.answer.IsAccepted master := by
        unfold Reply.handoff validate
        rw [← check_eq_ok_iff]
        cases hmarked : r.isMarked with
        | true =>
          have hcheck : check r.answer = .error .truncated := by simp [check, Reply.answer, hmarked]
          simp [hcheck]
        | false => cases hcheck : check r.answer <;> simp
      simpa [receive, arrival?] using hresult
    | failed errno =>
      by_cases hinterrupted : errno = .interrupted
      · simpa only [receive, arrival?, if_pos hinterrupted] using ih
      · simp only [receive, arrival?, if_neg hinterrupted]
        split <;> simp

/-- **A run of attempts leaves no descriptor behind, unless a marked reply brings some.**  What is
refused is closed, each descriptor once; what is accepted came with one descriptor, which stays
open; and this fails for a reply of which some descriptors, or other control data, did not fit. -/
theorem receive_conserves_iff (attempts : List Attempt) :
    (receive attempts).Conserves (installedBy attempts) ↔
      ∀ r ∈ arrival? attempts, r.isMarked = false ∨ r.installed = [] := by
  induction attempts with
  | nil => exact iff_of_true rfl (by simp [arrival?])
  | cons attempt rest ih =>
    cases attempt with
    | arrived r => simpa [receive, installedBy, arrival?] using r.handoff_conserves_iff
    | failed errno =>
      by_cases hinterrupted : errno = .interrupted
      · simpa only [receive, installedBy, arrival?, if_pos hinterrupted] using ih
      · have hnone : arrival? (.failed errno :: rest) = none := if_neg hinterrupted
        refine iff_of_true ?_ (by simp [hnone])
        simp only [receive, if_neg hinterrupted, installedBy, hnone]
        split <;> rfl

/-- A terminal's path with five descriptors, of which four fit. -/
def crowdedReply : Reply := ⟨"/dev/pts/7", false, false, [.rights [0, 1, 2, 3, 4]]⟩

/-- Four descriptors are installed for that reply; it is refused, and none of them is closed. -/
theorem crowdedReply_leaks :
    arrival? [.failed .interrupted, .arrived crowdedReply] = some crowdedReply ∧
      installedBy [.failed .interrupted, .arrived crowdedReply] = [0, 1, 2, 3] ∧
      (receive [.failed .interrupted, .arrived crowdedReply]).result =
        .error (.transport (.malformed .noBuffers)) ∧
      (receive [.failed .interrupted, .arrived crowdedReply]).closed = [] ∧
      ¬ (receive [.failed .interrupted, .arrived crowdedReply]).Conserves
        (installedBy [.failed .interrupted, .arrived crowdedReply]) := by
  refine ⟨rfl, rfl, rfl, rfl, fun h => ?_⟩
  cases h

/-! ### Connections -/

/-- A delivery carries the descriptors that it took. -/
lemma Delivery.sent_reply (d : Delivery) : d.reply.sent = d.sent := by
  rcases d with ⟨payload, _ | ⟨descriptor, rest⟩⟩
  · rfl
  · exact List.append_nil _

/-- **A client keeps no descriptor of what it receives on a connection if and only if what comes
next has no more descriptors than slots.** -/
lemma Channel.conserves_next_iff (c : Channel) :
    c.receive.1.Conserves c.nextInstalled ↔
      (takeParcels (maxPath + 1) c.queue).1.sent.length ≤ slots := by
  unfold Channel.receive nextInstalled
  split_ifs with hidle
  · obtain ⟨hqueue, -⟩ := Bool.and_eq_true_iff.1 hidle
    rw [List.isEmpty_iff.1 hqueue]
    exact iff_of_true rfl (Nat.zero_le _)
  · obtain ⟨d, queue⟩ := takeParcels (maxPath + 1) c.queue
    have hmarked : d.reply.isMarked = decide (slots < d.sent.length) := by
      rw [Reply.isMarked, Delivery.sent_reply]
      rfl
    have hinstalled : d.reply.installed = [] ↔ d.sent = [] := by
      rw [Reply.installed, Delivery.sent_reply, List.take_eq_nil_iff]
      exact or_iff_right (by decide)
    have hreceive : Pty.receive [.arrived d.reply] = d.reply.handoff := rfl
    simp only [hreceive, Reply.handoff_conserves_iff, hmarked, hinstalled, decide_eq_false_iff_not,
      not_lt]
    exact or_iff_left_of_imp fun h => h ▸ Nat.zero_le _

end ContainerEntry.Pty
