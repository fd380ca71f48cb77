import Mathlib
import ContainerEntry.Door.Lifecycle

/-!
# What is recorded of a door

Whoever records an event does not look at where the attempt stands, so events may come repeatedly,
too late, or not at all.  Those that do not fit are passed over, and what is left is told by the
state.

* **An event is accepted if and only if it changes the state** (`accepted_concat`), so passing over
  the others loses nothing (`recordAll_accepted`).
* **To every state lead few ways** (`Leads`): what was accepted on the way to it is one of them
  (`Leads.recordAll`), because each event that fits goes on along one (`Leads.next`).

`records_legal_history` reads off from the ways what holds of every sequence of events.
-/

namespace ContainerEntry.Door.State

variable {s s' : State} {e : Event} {past events : List Event}

/-! ### What is accepted -/

/-- An event that fits leads to another state. -/
lemma ne_of_next? (h : s.next? e = some s') : s' ≠ s := by
  rintro rfl
  cases s' <;> cases e <;> cases h

/-- The state after an event that fits. -/
lemma record_of_next? (h : s.next? e = some s') : s.record e = s' := by
  rw [record, h, Option.getD_some]

/-- An event fits unless it changes nothing. -/
lemma next?_eq_none_iff : s.next? e = none ↔ s.record e = s := by
  cases h : s.next? e with
  | none => simp [record, h]
  | some next => simp [record_of_next? h, ne_of_next? h]

/-- An event is accepted in front of others if it changes the state. -/
lemma accepted_cons (s : State) (e : Event) (events : List Event) :
    accepted s (e :: events) =
      (if s.record e = s then [] else [e]) ++ accepted (s.record e) events := by
  cases h : s.next? e with
  | none =>
    have hsame := next?_eq_none_iff.1 h
    simp [accepted, h, hsame]
  | some next => simp [accepted, h, record_of_next? h, ne_of_next? h]

/-- The state after an event and more. -/
lemma recordAll_cons (s : State) (e : Event) (events : List Event) :
    s.recordAll (e :: events) = (s.record e).recordAll events :=
  rfl

/-- The state after events and more events. -/
lemma recordAll_append (s : State) (events more : List Event) :
    s.recordAll (events ++ more) = (s.recordAll events).recordAll more :=
  List.foldl_append

/-- What comes later is accepted from the state that was reached. -/
lemma accepted_append (s : State) (events more : List Event) :
    accepted s (events ++ more) = accepted s events ++ accepted (s.recordAll events) more := by
  induction events generalizing s with
  | nil => rfl
  | cons e events ih =>
    rw [List.cons_append, accepted_cons, accepted_cons, ih, List.append_assoc, recordAll_cons]

/-- **An event is accepted if and only if it changes the state.** -/
lemma accepted_concat (s : State) (events : List Event) (e : Event) :
    accepted s (events ++ [e]) = accepted s events ++
      if (s.recordAll events).record e = s.recordAll events then [] else [e] := by
  rw [accepted_append, accepted_cons, accepted, List.append_nil]

/-- **Events that are not accepted can be left out.** -/
lemma recordAll_accepted (s : State) (events : List Event) :
    s.recordAll (accepted s events) = s.recordAll events := by
  induction events generalizing s with
  | nil => rfl
  | cons e events ih =>
    rw [accepted_cons, recordAll_cons]
    split_ifs with hsame
    · rw [List.nil_append, hsame, ih]
    · rw [List.singleton_append, recordAll_cons, ih]

/-! ### The ways to a state -/

/-- The ways by which an attempt comes from its beginning to a state. -/
inductive Leads : List Event → State → Prop where
  /-- Nothing has happened. -/
  | notStarted : Leads [] .notStarted
  /-- The attempt has started. -/
  | entering : Leads [.enter] .entering
  /-- The door stayed shut. -/
  | failed : Leads [.enter, .fail] .failed
  /-- The door is open. -/
  | running : Leads [.enter, .entered] .running
  /-- The workload has ended. -/
  | exited : Leads [.enter, .entered, .exit] .exited
  /-- Everything was released while the workload ran. -/
  | destroyed : Leads [.enter, .entered, .destroy] .destroyed
  /-- Everything was released behind the workload. -/
  | destroyedBehind : Leads [.enter, .entered, .exit, .destroy] .destroyed

/-- **An event that fits goes on along a way.** -/
lemma Leads.next (h : Leads past s) (hnext : s.next? e = some s') : Leads (past ++ [e]) s' := by
  cases h <;> cases e <;> cases hnext
  · exact .entering
  · exact .running
  · exact .failed
  · exact .exited
  · exact .destroyed
  · exact .destroyedBehind

/-- **What is accepted goes on along a way.** -/
lemma Leads.recordAll (h : Leads past s) (events : List Event) :
    Leads (past ++ accepted s events) (s.recordAll events) := by
  induction events generalizing past s with
  | nil => rwa [accepted, List.append_nil]
  | cons e events ih =>
    rw [accepted_cons, recordAll_cons, ← List.append_assoc]
    apply ih
    cases hnext : s.next? e with
    | none =>
      have hsame := next?_eq_none_iff.1 hnext
      rwa [if_pos hsame, hsame, List.append_nil]
    | some s' =>
      rw [record_of_next? hnext, if_neg (ne_of_next? hnext)]
      exact h.next hnext

/-- What is accepted from the beginning is a way to where it ends. -/
lemma leads_accepted (events : List Event) :
    Leads (accepted .notStarted events) (recordAll .notStarted events) :=
  Leads.notStarted.recordAll events

/-! ### What the ways have in common -/

/-- Every way is the beginning of a whole history. -/
lemma Leads.exists_history (h : Leads past s) : ∃ whole ∈ histories, past <+: whole := by
  cases h <;> decide

/-- A session is left over on the ways on which the door opened and nothing was released. -/
lemma Leads.needsTeardown_iff (h : Leads past s) :
    s.needsTeardown ↔ .entered ∈ past ∧ .destroy ∉ past := by
  cases h <;> decide

/-- On no way is anything released twice. -/
lemma Leads.count_destroy_le (h : Leads past s) : past.count .destroy ≤ 1 := by
  cases h <;> decide

/-- Something is released only behind a door that opened. -/
lemma Leads.entered_of_destroy (h : Leads past s) (hdestroy : .destroy ∈ past) :
    [.enter, .entered] <+: past := by
  cases h <;> revert hdestroy <;> decide

/-- Every beginning of a whole history is accepted as it is. -/
lemma accepted_of_prefix {whole : List Event} (hwhole : whole ∈ histories) (h : past <+: whole) :
    accepted .notStarted past = past := by
  have hall : ∀ whole ∈ histories, ∀ past ∈ whole.inits, accepted .notStarted past = past := by
    decide
  exact hall whole hwhole past ((List.mem_inits past whole).2 h)

/-- A door that stayed shut, and one behind which everything was released, are done with: no event
changes that. -/
lemma recordAll_of_over (h : s = .failed ∨ s = .destroyed) (events : List Event) :
    s.recordAll events = s := by
  induction events with
  | nil => rfl
  | cons e events ih =>
    have hsame : s.record e = s := by
      rcases h with rfl | rfl <;> cases e <;> rfl
    rw [recordAll_cons, hsame, ih]

/-- **Whatever comes in whatever order, a legal history is recorded.**  What is accepted is the
beginning of a whole history, every beginning of one is accepted as it is, and what is accepted are
the events that change the state, so that leaving out the others changes nothing.  A session is left
over to be released exactly if the door opened and nothing was released.  Once the door stayed shut
or everything was released, no event changes the state.  So the release is accepted at most once,
and only behind a door that opened. -/
theorem records_legal_history (events : List Event) :
    (∃ whole ∈ histories, accepted .notStarted events <+: whole) ∧
    ((∃ whole ∈ histories, events <+: whole) → accepted .notStarted events = events) ∧
    (∀ e, accepted .notStarted (events ++ [e]) = accepted .notStarted events ++
      if (recordAll .notStarted events).record e = recordAll .notStarted events then [] else [e]) ∧
    recordAll .notStarted (accepted .notStarted events) = recordAll .notStarted events ∧
    ((recordAll .notStarted events).needsTeardown ↔
      .entered ∈ accepted .notStarted events ∧ .destroy ∉ accepted .notStarted events) ∧
    (recordAll .notStarted events = .failed ∨ recordAll .notStarted events = .destroyed →
      ∀ more, recordAll .notStarted (events ++ more) = recordAll .notStarted events) ∧
    (accepted .notStarted events).count .destroy ≤ 1 ∧
    (.destroy ∈ accepted .notStarted events →
      [.enter, .entered] <+: accepted .notStarted events) := by
  have hleads := leads_accepted events
  refine ⟨hleads.exists_history, ?_, accepted_concat _ events, recordAll_accepted _ events,
    hleads.needsTeardown_iff, ?_, hleads.count_destroy_le, hleads.entered_of_destroy⟩
  · rintro ⟨whole, hwhole, hprefix⟩
    exact accepted_of_prefix hwhole hprefix
  · intro hover more
    rw [recordAll_append, recordAll_of_over hover]

/-- Events that come too early, too late and repeatedly. -/
def muddledEvents : List Event :=
  [.exit, .enter, .destroy, .entered, .enter, .fail, .destroy, .exit, .destroy]

/-- Of the muddled events those are accepted that open the door and release everything once, and
then nothing counts any more. -/
theorem records_legal_history_muddled :
    accepted .notStarted muddledEvents = [.enter, .entered, .destroy] ∧
      recordAll .notStarted muddledEvents = .destroyed ∧
      ∀ more, recordAll .notStarted (muddledEvents ++ more) = .destroyed := by
  obtain ⟨-, -, -, -, -, hover, -⟩ := records_legal_history muddledEvents
  exact ⟨by decide, by decide, hover (.inr (by decide))⟩

end ContainerEntry.Door.State
