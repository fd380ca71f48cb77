import Mathlib
import ContainerEntry.Terminal.Desk
import ContainerEntry.Proofs.Basic

/-!
# What a turn does to the terminals

Altering the terminal of one device leaves what is read from every other device as it was
(`inspect_alter_of_ne`), and leaves what the alteration keeps as it was everywhere
(`inspect_alter_of_keeps`).

Each operation is inverted once: what it takes to succeed and what is there then
(`enterRaw_eq_ok_iff`, `copySize_eq_ok_iff`), and that nothing has changed when it fails
(`eq_of_enterRaw_eq_error`, `eq_of_copySize_eq_error`).  Failing takes nothing back, so that rests
on the call that changes something being the last that can be refused.  Restoring leaves the same
kind of desk either way (`after_restore`).  From that, everything a turn can do is one of the cases
of `Effect` (`effect_step`).
-/

namespace ContainerEntry

open Bytes

/-! ### Raw mode -/

/-- Raw mode has none of the flags. -/
lemma Attributes.has_raw (a : Attributes) (f : TerminalFlag) : a.raw.has f = false := by
  -- every flag's bit is among the bits that raw mode clears in the flag's word
  have hclear (word cleared bit : UInt32) (h : ~~~cleared &&& bit = 0) :
      (word &&& ~~~cleared &&& bit != 0) = false := by
    rw [UInt32.and_assoc, h, UInt32.and_zero]
    rfl
  cases f <;> exact hclear _ _ _ (by decide)

/-- No flag is set in raw mode. -/
lemma Attributes.flags_raw (a : Attributes) : a.raw.flags = [] := by
  simp [flags, has_raw]

namespace Desk

variable {α : Type} {d : Desk} {device other : Device} {f : Terminal → Terminal}

/-! ### Altering a terminal -/

/-- Of altered terminals, each name has the altered one. -/
lemma terminal?_alter (d : Desk) (device other : Device) (f : Terminal → Terminal) :
    (d.alter device f).terminal? other =
      (d.terminal? other).map fun t => if device = other then f t else t := by
  cases other with
  | none => rfl
  | some name =>
    show (d.alter device f).terminals.lookup name = (d.terminals.lookup name).map _
    unfold alter
    induction d.terminals with
    | nil => rfl
    | cons e rest ih =>
      rw [List.map_cons, lookup_cons_eq, lookup_cons_eq, ih]
      by_cases h : name = e.1
      · simp [h]
      · simp [h]

/-- What an alteration keeps is the same on every device. -/
lemma inspect_alter_of_keeps {g : Terminal → α} (h : ∀ t, g (f t) = g t) :
    (d.alter device f).inspect other g = d.inspect other g := by
  unfold inspect
  rw [terminal?_alter]
  cases d.terminal? other with
  | none => rfl
  | some t =>
    by_cases hdevice : device = other
    · simp [hdevice, h]
    · simp [hdevice]

/-- An alteration keeps everything on the other devices. -/
lemma inspect_alter_of_ne {g : Terminal → α} (h : device ≠ other) :
    (d.alter device f).inspect other g = d.inspect other g := by
  simp [inspect, terminal?_alter, h]

/-- What is read from the device itself is read from the altered terminal. -/
lemma inspect_alter_self {g : Terminal → α} :
    (d.alter device f).inspect device g = d.inspect device fun t => g (f t) := by
  unfold inspect
  rw [terminal?_alter]
  cases d.terminal? device with
  | none => rfl
  | some t => simp

/-- A terminal that was altered to have something has it. -/
lemma inspect_alter_of_const {g : Terminal → α} {a : α} (hterminal : (d.terminal? device).isSome)
    (h : ∀ t, g (f t) = a) : (d.alter device f).inspect device g = .ok a := by
  obtain ⟨t, ht⟩ := Option.isSome_iff_exists.1 hterminal
  rw [inspect_alter_self, inspect, ht]
  exact congrArg Except.ok (h t)

/-- Altering something that is no terminal alters nothing. -/
lemma alter_of_terminal?_eq_none (h : d.terminal? device = none) : d.alter device f = d := by
  have hentry : ∀ e ∈ d.terminals, (e.1, if device = some e.1 then f e.2 else e.2) = e := by
    intro e he
    have hname : device ≠ some e.1 := by
      rintro rfl
      have hnone : ∀ p ∈ d.terminals, (e.1 == p.1) = false := by
        simpa [terminal?, List.lookup_eq_none_iff] using h
      simpa using hnone e he
    rw [if_neg hname]
  show { d with terminals := d.terminals.map fun e => _ } = d
  rw [List.map_congr_left hentry, List.map_id']

/-- What is read is read from a terminal. -/
lemma isSome_of_inspect_eq_ok {g : Terminal → α} {a : α} (h : d.inspect device g = .ok a) :
    (d.terminal? device).isSome := by
  unfold inspect at h
  cases hterminal : d.terminal? device with
  | none => simp [hterminal] at h
  | some t => rfl

/-- A terminal can be altered, and nothing else can. -/
lemma change_eq_ok_iff {d' : Desk} :
    d.change device f = .ok d' ↔ (d.terminal? device).isSome ∧ d' = d.alter device f := by
  unfold change
  cases d.terminal? device <;> simp [eq_comm]

/-- The desk once raw mode was entered on a device that had some attributes: they are raw, and the
newest guard has what they were. -/
def entered (d : Desk) (device : Device) (name : Bytes) (a : Attributes) : Desk :=
  (d.alter device (·.withAttributes a.raw)).keep name ⟨device, a⟩

/-- The desk once a guard's attributes were set again, or that was refused. -/
def restored (d : Desk) (r : TerminalRefusals) (g : Guard) : Desk :=
  match r.restore with
  | none => d.alter g.device (·.withAttributes g.saved)
  | some _ => d

end Desk

/-! ### Calls in a row -/

namespace Calls

variable {α β : Type} {d d' : Desk}

/-- Calls succeed or fail, and leave what they leave. -/
lemma after_cases (calls : Calls α) (d : Desk) :
    (∃ a, calls d = .ok a (after calls d)) ∨ ∃ failed, calls d = .error failed (after calls d) := by
  unfold after
  cases calls d with
  | ok a d' => exact .inl ⟨a, rfl⟩
  | error failed d' => exact .inr ⟨failed, rfl⟩

/-- Calls succeed if the first ones do, and then the others. -/
lemma bind_eq_ok_iff {x : Calls α} {f : α → Calls β} {b : β} :
    (x >>= f) d = .ok b d' ↔ ∃ a between, x d = .ok a between ∧ f a between = .ok b d' := by
  show EStateM.bind x f d = _ ↔ _
  unfold EStateM.bind
  cases x d <;> simp

/-- Calls fail if the first ones do, or else the others. -/
lemma bind_eq_error_iff {x : Calls α} {f : α → Calls β} {failure : Failure} :
    (x >>= f) d = .error failure d' ↔
      x d = .error failure d' ∨
        ∃ a between, x d = .ok a between ∧ f a between = .error failure d' := by
  show EStateM.bind x f d = _ ↔ _
  unfold EStateM.bind
  cases x d <;> simp

variable {question : Desk → Except Errno α} {order : Desk → Except Errno Desk}
  {refused : Option Errno} {failure : Errno → Failure} {failed : Failure}

/-- A question is answered if it has an answer and is not refused; asking changes nothing. -/
lemma ask_eq_ok_iff {a : α} :
    ask question refused failure d = .ok a d' ↔ refused = none ∧ question d = .ok a ∧ d' = d := by
  unfold ask
  cases question d <;> cases refused <;> simp [eq_comm]

/-- A refused question changes nothing. -/
lemma eq_of_ask_eq_error (h : ask question refused failure d = .error failed d') : d' = d := by
  unfold ask at h
  split at h <;> simp_all

/-- An order is carried out if it can be and is not refused. -/
lemma tell_eq_ok_iff {u : Unit} :
    tell order refused failure d = .ok u d' ↔ refused = none ∧ order d = .ok d' := by
  unfold tell
  cases order d <;> cases refused <;> simp

/-- A refused order changes nothing. -/
lemma eq_of_tell_eq_error (h : tell order refused failure d = .error failed d') : d' = d := by
  unfold tell at h
  split at h <;> simp_all

/-- What is only noted down always succeeds. -/
lemma modify_eq_ok_iff {f : Desk → Desk} {u : Unit} :
    (modify f : Calls Unit) d = .ok u d' ↔ d' = f d := by
  show EStateM.Result.ok () (f d) = .ok u d' ↔ _
  simp [eq_comm]

/-- What is only noted down never fails. -/
lemma modify_ne_error {f : Desk → Desk} : (modify f : Calls Unit) d ≠ .error failed d' := by
  rintro ⟨⟩

/-! ### The operations -/

variable {r : TerminalRefusals} {device source target : Device} {name : Bytes} {g : Guard}
  {u : Unit}

/-- **Entering raw mode** takes three calls, all granted, on a terminal. -/
lemma enterRaw_eq_ok_iff :
    enterRaw r device name d = .ok u d' ↔
      r.duplicate = none ∧ r.getAttributes = none ∧ r.setAttributes = none ∧
        ∃ a, d.attributes device = .ok a ∧ d' = d.entered device name a := by
  simp only [enterRaw, bind_eq_ok_iff, ask_eq_ok_iff, tell_eq_ok_iff, modify_eq_ok_iff]
  constructor
  · rintro ⟨_, _, ⟨hduplicate, _, rfl⟩, a, _, ⟨hget, ha, rfl⟩, _, raw, ⟨hset, hraw⟩, rfl⟩
    obtain ⟨-, rfl⟩ := Desk.change_eq_ok_iff.1 hraw
    exact ⟨hduplicate, hget, hset, a, ha, rfl⟩
  · rintro ⟨hduplicate, hget, hset, a, ha, rfl⟩
    have hraw : d.setAttributes device a.raw = .ok (d.alter device (·.withAttributes a.raw)) :=
      Desk.change_eq_ok_iff.2 ⟨Desk.isSome_of_inspect_eq_ok ha, rfl⟩
    exact ⟨(), d, ⟨hduplicate, trivial, rfl⟩, a, d, ⟨hget, ha, rfl⟩, (), _, ⟨hset, hraw⟩, rfl⟩

/-- Where raw mode was not entered, nothing has changed, and there is no guard. -/
lemma eq_of_enterRaw_eq_error (h : enterRaw r device name d = .error failed d') : d' = d := by
  simp only [enterRaw, bind_eq_error_iff, ask_eq_ok_iff, modify_ne_error, and_false, exists_false,
    or_false] at h
  obtain hduplicate | ⟨_, _, ⟨_, _, rfl⟩, hget | ⟨a, _, ⟨_, _, rfl⟩, hset⟩⟩ := h
  · exact eq_of_ask_eq_error hduplicate
  · exact eq_of_ask_eq_error hget
  · exact eq_of_tell_eq_error hset

/-- **Copying a window size** takes two calls, both granted, each on a terminal. -/
lemma copySize_eq_ok_iff :
    copySize r source target d = .ok u d' ↔
      r.getSize = none ∧ r.setSize = none ∧ ∃ size, d.size source = .ok size ∧
        (d.terminal? target).isSome ∧ d' = d.alter target (·.withSize size) := by
  simp only [copySize, bind_eq_ok_iff, ask_eq_ok_iff, tell_eq_ok_iff, Desk.setSize,
    Desk.change_eq_ok_iff]
  constructor
  · rintro ⟨size, _, ⟨hget, hsize, rfl⟩, hset, htarget, rfl⟩
    exact ⟨hget, hset, size, hsize, htarget, rfl⟩
  · rintro ⟨hget, hset, size, hsize, htarget, rfl⟩
    exact ⟨size, d, ⟨hget, hsize, rfl⟩, hset, htarget, rfl⟩

/-- Where no window size was copied, nothing has changed. -/
lemma eq_of_copySize_eq_error (h : copySize r source target d = .error failed d') : d' = d := by
  simp only [copySize, bind_eq_error_iff, ask_eq_ok_iff] at h
  obtain hget | ⟨size, _, ⟨_, _, rfl⟩, hset⟩ := h
  · exact eq_of_ask_eq_error hget
  · exact eq_of_tell_eq_error hset

/-- **Restoring** takes one call.  When it is refused the desk stays as it is, and so it does when
the device is no terminal, where there is nothing to set. -/
lemma after_restore : after (restore r g) d = d.restored r g := by
  simp only [after, restore, tell, Desk.restored, Desk.setAttributes, Desk.change]
  cases hterminal : d.terminal? g.device with
  | none =>
    rw [Desk.alter_of_terminal?_eq_none hterminal]
    cases r.restore <;> rfl
  | some t => cases r.restore <;> rfl

end Calls

/-! ### Turns -/

namespace Calls

variable {β : Type} {d : Desk}

/-- What depends on the desk is the calls for the desk there is. -/
@[simp] lemma get_bind (f : Desk → Calls β) : ((get : Calls Desk) >>= f) d = f d d := rfl

/-- A failure that is passed over leaves what the calls left. -/
lemma tryCatch_bind (x : Calls Unit) (f : Calls β) :
    (tryCatch x (fun _ => pure ()) >>= fun _ => f) d = f (after x d) := by
  show EStateM.bind (EStateM.tryCatch x fun _ => pure ()) (fun _ => f) d = _
  unfold EStateM.bind EStateM.tryCatch after
  cases x d <;> rfl

end Calls

namespace Desk

variable {d : Desk} {r : TerminalRefusals} {place : Nat} {name : Bytes} {g : Guard}

/-- Restoring keeps the guards. -/
@[simp] lemma guards_restored : (d.restored r g).guards = d.guards := by
  unfold restored
  cases r.restore <;> rfl

/-- Restoring a guard that is there. -/
lemma step_restore (h : d.guards[place]? = some (name, g)) :
    d.step ⟨.restore place, r⟩ = d.restored r g := by
  rw [← Calls.after_restore]
  simp only [step, Act.attempt, Calls.after, Calls.get_bind, h]

/-- Dropping a guard that is there restores it, and it is gone whether that was refused or not. -/
lemma step_drop (h : d.guards[place]? = some (name, g)) :
    d.step ⟨.drop place, r⟩ = (d.restored r g).discard place := by
  rw [← Calls.after_restore]
  simp only [step, Act.attempt, Calls.after, Calls.get_bind, h, Calls.tryCatch_bind]
  rfl

/-- A guard that is not there is neither restored nor dropped. -/
lemma step_of_getElem?_eq_none (h : d.guards[place]? = none) {act : Act}
    (hact : act = .restore place ∨ act = .drop place) : d.step ⟨act, r⟩ = d := by
  rcases hact with rfl | rfl <;>
    simp only [step, Act.attempt, Calls.after, Calls.get_bind, h] <;> rfl

/-- What a turn can do to a desk. -/
inductive Effect (d : Desk) : Turn → Desk → Prop where
  /-- Nothing: a call was refused, or there is no such guard. -/
  | nothing (t : Turn) : Effect d t d
  /-- Raw mode was entered. -/
  | entered (r : TerminalRefusals) {device : Device} (name : Bytes) {a : Attributes}
      (h : d.attributes device = .ok a) :
      Effect d ⟨.enterRaw device name, r⟩ (d.entered device name a)
  /-- A guard was restored, or that was refused. -/
  | restored (r : TerminalRefusals) {place : Nat} {name : Bytes} {g : Guard}
      (h : d.guards[place]? = some (name, g)) : Effect d ⟨.restore place, r⟩ (d.restored r g)
  /-- A guard was dropped. -/
  | dropped (r : TerminalRefusals) {place : Nat} {name : Bytes} {g : Guard}
      (h : d.guards[place]? = some (name, g)) :
      Effect d ⟨.drop place, r⟩ ((d.restored r g).discard place)
  /-- A window size was copied. -/
  | copied (r : TerminalRefusals) {source target : Device} {size : WindowSize}
      (h : d.size source = .ok size) :
      Effect d ⟨.copySize source target, r⟩ (d.alter target (·.withSize size))

/-- **Every turn has one of these effects.** -/
theorem effect_step (d : Desk) (t : Turn) : Effect d t (d.step t) := by
  obtain ⟨act, r⟩ := t
  cases act with
  | enterRaw device name =>
    show Effect d _ (Calls.after (Calls.enterRaw r device name) d)
    obtain ⟨_, hentered⟩ | ⟨_, hfailed⟩ := Calls.after_cases (Calls.enterRaw r device name) d
    · obtain ⟨-, -, -, a, ha, hd⟩ := Calls.enterRaw_eq_ok_iff.1 hentered
      rw [hd]
      exact .entered r name ha
    · rw [Calls.eq_of_enterRaw_eq_error hfailed]
      exact .nothing _
  | restore place =>
    cases hplace : d.guards[place]? with
    | none =>
      rw [step_of_getElem?_eq_none hplace (.inl rfl)]
      exact .nothing _
    | some guard =>
      rw [step_restore hplace]
      exact .restored r hplace
  | drop place =>
    cases hplace : d.guards[place]? with
    | none =>
      rw [step_of_getElem?_eq_none hplace (.inr rfl)]
      exact .nothing _
    | some guard =>
      rw [step_drop hplace]
      exact .dropped r hplace
  | copySize source target =>
    show Effect d _ (Calls.after (Calls.copySize r source target) d)
    obtain ⟨_, hcopied⟩ | ⟨_, hfailed⟩ := Calls.after_cases (Calls.copySize r source target) d
    · obtain ⟨-, -, size, hsize, -, hd⟩ := Calls.copySize_eq_ok_iff.1 hcopied
      rw [hd]
      exact .copied r hsize
    · rw [Calls.eq_of_copySize_eq_error hfailed]
      exact .nothing _

end Desk

end ContainerEntry
