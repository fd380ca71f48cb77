import Mathlib
import ContainerEntry.Lock.Acquire
import ContainerEntry.Lock.Contention
import ContainerEntry.Proofs.Lock.Exclusion

/-!
# Waiting callers never wait for each other

Callers that lock one container's directory hold what they have while they wait for the next
target, so a circle of them could wait for ever.  There is none, because everybody takes the targets
in one order: whoever waits wants an inode that comes behind all that it holds, and whoever holds
that inode, if it waits as well, wants one that comes still further behind.

* **A turn keeps to the order** (`isOrdered_of_step?`), and so does a run (`isOrdered_run`): what a
  caller holds and what it still has to lock are a part of the targets of the full lock, in order.
* **A wait leads up in the order** (`idxOf_lt_of_waitsFor`), so nobody waits for itself through
  others, and from any caller that waits there is a way to one that does not
  (`exists_step?_of_wants`).
* **The turns are those of an acquisition** (`comesTo_acquire`): a caller that goes on while it can
  comes to stand where `acquire` leaves it, and later where `resume` does.

`somebody_goes_on` draws the conclusion for every number of callers and every order of turns.
-/

namespace ContainerEntry.Lock

open Bytes

/-! ### Turns -/

namespace Contention

variable {c c' : Contention} {turn : Nat}

/-- A caller has locked an inode if and only if the inode is held. -/
lemma isHeld_iff {i : Inode} : c.isHeld i = true ↔ ∃ k ∈ c.contenders, i ∈ k.held := by
  simp only [isHeld, List.any_eq_true, List.contains_iff_mem]

/-- A turn lets everything go, or locks the next inode, which nobody holds. -/
lemma step?_eq_some_iff : c.step? turn = some c' ↔
    ∃ k, c.contenders[turn]? = some k ∧ k.isDone = false ∧
      (k.rest = [] ∧ c' = ⟨c.contenders.set turn ⟨[], [], true⟩⟩ ∨
        ∃ i rest, k.rest = i :: rest ∧ c.isHeld i = false ∧
          c' = ⟨c.contenders.set turn ⟨k.held ++ [i], rest, false⟩⟩) := by
  constructor
  · intro h
    unfold step? at h
    split at h
    · cases h
    next k hk =>
    split at h
    · cases h
    next hdone =>
    refine ⟨k, hk, Bool.eq_false_iff.2 hdone, ?_⟩
    split at h
    · next hrest =>
      cases h
      exact .inl ⟨hrest, rfl⟩
    · next i rest hrest =>
      split at h
      · cases h
      · next hfree =>
        cases h
        exact .inr ⟨i, rest, hrest, Bool.eq_false_iff.2 hfree, rfl⟩
  · rintro ⟨k, hk, hdone, ⟨hrest, rfl⟩ | ⟨i, rest, hrest, hfree, rfl⟩⟩
    · simp only [step?, hk, hdone, hrest, Bool.false_eq_true, if_false]
    · simp only [step?, hk, hdone, hrest, hfree, Bool.false_eq_true, if_false]

/-- A caller can take a turn unless it is done, or the inode it wants is held. -/
lemma isSome_step?_iff : (c.step? turn).isSome = true ↔
    ∃ k, c.contenders[turn]? = some k ∧ k.isDone = false ∧
      ∀ i rest, k.rest = i :: rest → c.isHeld i = false := by
  rw [Option.isSome_iff_exists]
  constructor
  · rintro ⟨c', h⟩
    obtain ⟨k, hk, hdone, ⟨hrest, -⟩ | ⟨i, rest, hrest, hfree, -⟩⟩ := step?_eq_some_iff.1 h
    · refine ⟨k, hk, hdone, fun i rest hcons => ?_⟩
      rw [hrest] at hcons
      cases hcons
    · refine ⟨k, hk, hdone, fun j rest' hcons => ?_⟩
      rw [hrest] at hcons
      cases hcons
      exact hfree
  · rintro ⟨k, hk, hdone, hfree⟩
    cases hrest : k.rest with
    | nil => exact ⟨_, step?_eq_some_iff.2 ⟨k, hk, hdone, .inl ⟨hrest, rfl⟩⟩⟩
    | cons i rest =>
      exact ⟨_, step?_eq_some_iff.2 ⟨k, hk, hdone, .inr ⟨i, rest, hrest, hfree i rest hrest, rfl⟩⟩⟩

end Contention

/-! ### One order for everybody -/

/-- What a caller holds, and then what it still has to lock, is a part of the order; and a caller
that is done holds nothing. -/
structure Contender.IsOrdered (order : List Inode) (k : Contender) : Prop where
  /-- Everything is in order. -/
  sublist : (k.held ++ k.rest).Sublist order
  /-- Nothing is kept. -/
  held_of_isDone : k.isDone = true → k.held = []

/-- Every caller keeps to the order. -/
def Contention.IsOrdered (order : List Inode) (c : Contention) : Prop :=
  ∀ k ∈ c.contenders, k.IsOrdered order

/-- Every level takes a part of what the full one takes, in the same order. -/
lemma targets_sublist_full (level : Level) (directory : Bytes) :
    (level.targets directory).Sublist (Level.full.targets directory) := by
  cases level <;> simp [Level.targets, Level.sentinel?, Level.parts]

namespace Contention

variable {order : List Inode} {c c' : Contention} {turn : Nat}

/-- Callers that have not begun keep to the order of the full lock. -/
lemma isOrdered_start (directory : Bytes) (inodeOf : Target → Inode) (levels : List Level) :
    (start directory inodeOf levels).IsOrdered ((Level.full.targets directory).map inodeOf) := by
  intro k hk
  obtain ⟨level, -, rfl⟩ := List.mem_map.1 hk
  exact ⟨(targets_sublist_full level directory).map inodeOf, fun h => by cases h⟩

/-- A turn keeps to the order. -/
lemma isOrdered_of_step? (hordered : c.IsOrdered order) (h : c.step? turn = some c') :
    c'.IsOrdered order := by
  obtain ⟨k, hk, -, ⟨-, rfl⟩ | ⟨i, rest, hrest, -, rfl⟩⟩ := step?_eq_some_iff.1 h
  · intro l hl
    rcases List.mem_or_eq_of_mem_set hl with hmem | rfl
    · exact hordered l hmem
    · exact ⟨List.nil_sublist order, fun _ => rfl⟩
  · intro l hl
    rcases List.mem_or_eq_of_mem_set hl with hmem | rfl
    · exact hordered l hmem
    · have hsublist := (hordered k (List.mem_of_getElem? hk)).sublist
      rw [hrest] at hsublist
      exact ⟨by simpa using hsublist, fun hdone => by cases hdone⟩

/-- A run is a turn and then the other turns. -/
lemma run_cons (c : Contention) (turn : Nat) (turns : List Nat) :
    c.run (turn :: turns) = ((c.step? turn).getD c).run turns := rfl

/-- **A run keeps to the order.** -/
lemma isOrdered_run (h : c.IsOrdered order) (turns : List Nat) : (c.run turns).IsOrdered order := by
  induction turns generalizing c with
  | nil => exact h
  | cons turn turns ih =>
    rw [run_cons]
    apply ih
    cases hstep : c.step? turn with
    | none => exact h
    | some c' => exact isOrdered_of_step? h hstep

end Contention

/-! ### The turns of an acquisition -/

/-- How a caller stands whose acquisition has come to an outcome. -/
def Outcome.contender (inodeOf : Target → Inode) : Outcome → Contender
  | .acquired held => ⟨held, [], false⟩
  | .failed _ => ⟨[], [], true⟩
  | .waiting held i rest => ⟨held, i :: rest.map inodeOf, false⟩

/-- Opening a target that is there changes nothing. -/
lemma Target.LeadsTo.openTarget_eq {files : Filesystem} {locked : List Inode} {target : Target}
    {i : Inode} (h : target.LeadsTo files i) :
    Space.openTarget ⟨files, locked⟩ target = .ok (i, ⟨files, locked⟩) := by
  cases target with
  | file path =>
    show (files.openOrCreate path sentinelMode).map _ = _
    rw [show files.openOrCreate path sentinelMode = .ok (i, files) from h]
    rfl
  | directory path =>
    show (files.openExisting path).map _ = _
    rw [show files.openExisting path = .ok i from h]
    rfl

namespace Contention

variable {c : Contention} {turn : Nat} {held locked rest : List Inode} {i : Inode}

/-- A caller that locks an inode adds it to those that are held. -/
lemma isHeld_set (hk : c.contenders[turn]? = some ⟨held, i :: rest, false⟩) (j : Inode) :
    isHeld ⟨c.contenders.set turn ⟨held ++ [i], rest, false⟩⟩ j = true ↔
      j = i ∨ c.isHeld j = true := by
  obtain ⟨hlt, -⟩ := List.getElem?_eq_some_iff.1 hk
  have hself := List.getElem?_set_self (a := (⟨held ++ [i], rest, false⟩ : Contender)) hlt
  rw [isHeld_iff, isHeld_iff]
  constructor
  · rintro ⟨l, hl, hj⟩
    rcases List.mem_or_eq_of_mem_set hl with hmem | rfl
    · exact .inr ⟨l, hmem, hj⟩
    · rcases List.mem_append.1 hj with hj | hj
      · exact .inr ⟨_, List.mem_of_getElem? hk, hj⟩
      · exact .inl (List.mem_singleton.1 hj)
  · rintro (rfl | ⟨l, hl, hj⟩)
    · exact ⟨_, List.mem_of_getElem? hself, List.mem_append_right _ (List.mem_singleton_self _)⟩
    · obtain ⟨m, hm⟩ := List.getElem?_of_mem hl
      by_cases hmt : turn = m
      · subst hmt
        obtain rfl := Option.some.inj (hm.symm.trans hk)
        exact ⟨_, List.mem_of_getElem? hself, List.mem_append_left _ hj⟩
      · exact ⟨l, List.mem_of_getElem? ((List.getElem?_set_ne hmt).trans hm), hj⟩

/-- The caller comes by its own turns to where an acquisition stands, and what is held then are the
inodes that are locked. -/
def ComesTo (c : Contention) (turn : Nat) (inodeOf : Target → Inode) (files : Filesystem)
    (result : Outcome × Space) : Prop :=
  ∃ n, c.run (List.replicate n turn) = ⟨c.contenders.set turn (result.1.contender inodeOf)⟩ ∧
    result.2.files = files ∧
    ∀ j, j ∈ result.2.locked ↔ (c.run (List.replicate n turn)).isHeld j = true

variable {files : Filesystem} {inodeOf : Target → Inode} {targets : List Target}

/-- A caller that stands there need not take a turn. -/
lemma comesTo_of_stands (outcome : Outcome)
    (hk : c.contenders[turn]? = some (outcome.contender inodeOf))
    (hlocked : ∀ j, j ∈ locked ↔ c.isHeld j = true) :
    c.ComesTo turn inodeOf files (outcome, ⟨files, locked⟩) := by
  refine ⟨0, ?_, rfl, hlocked⟩
  obtain ⟨hlt, hget⟩ := List.getElem?_eq_some_iff.1 hk
  show c = ⟨c.contenders.set turn (outcome.contender inodeOf)⟩
  rw [← hget, List.set_getElem_self]

/-- A caller that wants a free inode locks it, and comes to where it comes from there. -/
lemma comesTo_of_lock {result : Outcome × Space}
    (hk : c.contenders[turn]? = some ⟨held, i :: rest, false⟩)
    (hlocked : ∀ j, j ∈ locked ↔ c.isHeld j = true) (hfree : i ∉ locked)
    (h : ∀ c' : Contention, c'.contenders[turn]? = some ⟨held ++ [i], rest, false⟩ →
      (∀ j, j ∈ i :: locked ↔ c'.isHeld j = true) → c'.ComesTo turn inodeOf files result) :
    c.ComesTo turn inodeOf files result := by
  have hnotHeld : c.isHeld i = false := by
    rw [← Bool.not_eq_true, ← hlocked]
    exact hfree
  have hstep : c.step? turn = some ⟨c.contenders.set turn ⟨held ++ [i], rest, false⟩⟩ :=
    step?_eq_some_iff.2 ⟨_, hk, rfl, .inr ⟨i, rest, rfl, hnotHeld, rfl⟩⟩
  obtain ⟨hlt, -⟩ := List.getElem?_eq_some_iff.1 hk
  have hheld (j : Inode) : j ∈ i :: locked ↔
      isHeld ⟨c.contenders.set turn ⟨held ++ [i], rest, false⟩⟩ j = true := by
    rw [isHeld_set hk, List.mem_cons, hlocked]
  obtain ⟨n, hrun, hfiles, hlocked'⟩ := h _ (List.getElem?_set_self hlt) hheld
  have hnext : c.run (List.replicate (n + 1) turn) =
      run ⟨c.contenders.set turn ⟨held ++ [i], rest, false⟩⟩ (List.replicate n turn) := by
    rw [List.replicate_succ, run_cons, hstep, Option.getD_some]
  refine ⟨n + 1, ?_, hfiles, ?_⟩
  · rw [hnext, hrun, List.set_set]
  · rw [hnext]
    exact hlocked'

/-- A caller comes by its turns to where its acquisition advances to. -/
lemma comesTo_advance (hleads : ∀ target ∈ targets, target.LeadsTo files (inodeOf target))
    (hk : c.contenders[turn]? = some ⟨held, targets.map inodeOf, false⟩)
    (hlocked : ∀ j, j ∈ locked ↔ c.isHeld j = true) :
    c.ComesTo turn inodeOf files (advance true ⟨files, locked⟩ held targets) := by
  induction targets generalizing c held locked with
  | nil => exact comesTo_of_stands (.acquired held) hk hlocked
  | cons target targets ih =>
    obtain ⟨htarget, hrest⟩ := List.forall_mem_cons.1 hleads
    rw [advance, htarget.openTarget_eq]
    by_cases hmem : inodeOf target ∈ locked
    · simp only [List.contains_iff_mem, hmem, if_true]
      exact comesTo_of_stands (.waiting held (inodeOf target) targets) hk hlocked
    · simp only [List.contains_iff_mem, hmem, if_false]
      exact comesTo_of_lock hk hlocked hmem fun c' hk' hlocked' => ih hrest hk' hlocked'

/-- A caller that has waited comes by its turns to where its acquisition is resumed to. -/
lemma comesTo_resume (hleads : ∀ target ∈ targets, target.LeadsTo files (inodeOf target))
    (hk : c.contenders[turn]? = some ⟨held, i :: targets.map inodeOf, false⟩)
    (hlocked : ∀ j, j ∈ locked ↔ c.isHeld j = true) :
    c.ComesTo turn inodeOf files (resume ⟨files, locked⟩ (.waiting held i targets)) := by
  rw [resume]
  by_cases hmem : i ∈ locked
  · simp only [List.contains_iff_mem, hmem, if_true]
    exact comesTo_of_stands (.waiting held i targets) hk hlocked
  · simp only [List.contains_iff_mem, hmem, if_false]
    exact comesTo_of_lock hk hlocked hmem fun c' hk' hlocked' =>
      comesTo_advance hleads hk' hlocked'

/-- **The turns are those of an acquisition.**  The targets are there, and what is locked is what
somebody holds.  Then a caller that takes turns while it can comes to stand where an acquisition that
waits leaves it, with the same inodes locked; and a caller that has waited, where it is resumed to. -/
theorem comesTo_acquire (hlocked : ∀ j, j ∈ locked ↔ c.isHeld j = true) :
    (∀ directory level,
      (∀ target ∈ level.targets directory, target.LeadsTo files (inodeOf target)) →
      c.contenders[turn]? = some (Contender.start directory inodeOf level) →
      c.ComesTo turn inodeOf files (acquire ⟨files, locked⟩ directory level true)) ∧
    ∀ held i targets, (∀ target ∈ targets, target.LeadsTo files (inodeOf target)) →
      c.contenders[turn]? = some ((Outcome.waiting held i targets).contender inodeOf) →
      c.ComesTo turn inodeOf files (resume ⟨files, locked⟩ (.waiting held i targets)) := by
  constructor
  · intro directory level hleads hk
    exact comesTo_advance hleads hk hlocked
  · intro held i targets hleads hk
    exact comesTo_resume hleads hk hlocked

end Contention

/-! ### Who waits for whom -/

/-- In an order without repetitions, what comes first has the lower position. -/
lemma idxOf_lt_of_sublist {order front back : List Inode} {a b : Inode} (hnodup : order.Nodup)
    (h : (front ++ back).Sublist order) (ha : a ∈ front) (hb : b ∈ back) :
    order.idxOf a < order.idxOf b := by
  have hrising : order.Pairwise fun a b => order.idxOf a < order.idxOf b := by
    rw [List.pairwise_iff_getElem]
    intro m n hm hn hlt
    rw [hnodup.idxOf_getElem, hnodup.idxOf_getElem]
    exact hlt
  exact (List.pairwise_append.1 (hrising.sublist h)).2.2 a ha b hb

namespace Contention

variable {order : List Inode} {c : Contention}

/-- A caller wants an inode: it is the next one that the caller has to lock. -/
def Wants (c : Contention) (turn : Nat) (i : Inode) : Prop :=
  ∃ k rest, c.contenders[turn]? = some k ∧ k.isDone = false ∧ k.rest = i :: rest

/-- A caller waits for another, or for itself: it wants an inode that the other has locked. -/
def WaitsFor (c : Contention) (turn other : Nat) : Prop :=
  ∃ i l, c.Wants turn i ∧ c.contenders[other]? = some l ∧ i ∈ l.held

/-- Whoever has locked an inode wants one that comes behind it. -/
lemma idxOf_lt_of_wants (hnodup : order.Nodup) (hordered : c.IsOrdered order) {other : Nat}
    {l : Contender} {i j : Inode} (hl : c.contenders[other]? = some l) (hi : i ∈ l.held)
    (hj : c.Wants other j) : order.idxOf i < order.idxOf j := by
  obtain ⟨k, rest, hk, -, hrest⟩ := hj
  obtain rfl : l = k := Option.some.inj (hl.symm.trans hk)
  have hsublist := (hordered l (List.mem_of_getElem? hl)).sublist
  exact idxOf_lt_of_sublist hnodup hsublist hi (hrest ▸ List.mem_cons_self)

/-- **A wait leads up in the order**: what the one waits for comes before what the other wants. -/
lemma idxOf_lt_of_waitsFor (hnodup : order.Nodup) (hordered : c.IsOrdered order)
    {turn other : Nat} {i j : Inode} (hwaits : c.WaitsFor turn other) (hi : c.Wants turn i)
    (hj : c.Wants other j) : order.idxOf i < order.idxOf j := by
  obtain ⟨i', l, ⟨k', rest', hk', -, hrest'⟩, hl, hheld⟩ := hwaits
  obtain ⟨k, rest, hk, -, hrest⟩ := hi
  obtain rfl : k = k' := Option.some.inj (hk.symm.trans hk')
  obtain ⟨rfl, -⟩ := List.cons.inj (hrest.symm.trans hrest')
  exact idxOf_lt_of_wants hnodup hordered hl hheld hj

/-- Whoever waits wants something. -/
lemma WaitsFor.wants {turn other : Nat} (h : c.WaitsFor turn other) : ∃ i, c.Wants turn i := by
  obtain ⟨i, -, hi, -, -⟩ := h
  exact ⟨i, hi⟩

/-- Through any number of waits, the order only rises. -/
lemma idxOf_lt_of_transGen (hnodup : order.Nodup) (hordered : c.IsOrdered order)
    {turn other : Nat} {i j : Inode} (h : Relation.TransGen c.WaitsFor turn other)
    (hi : c.Wants turn i) (hj : c.Wants other j) : order.idxOf i < order.idxOf j := by
  induction h generalizing j with
  | single hwaits => exact idxOf_lt_of_waitsFor hnodup hordered hwaits hi hj
  | tail _ hwaits ih =>
    obtain ⟨m, hm⟩ := hwaits.wants
    exact (ih hm).trans (idxOf_lt_of_waitsFor hnodup hordered hwaits hm hj)

/-- **Nobody waits for itself**, not even through others. -/
lemma not_transGen_waitsFor (hnodup : order.Nodup) (hordered : c.IsOrdered order) (turn : Nat) :
    ¬ Relation.TransGen c.WaitsFor turn turn := by
  intro h
  obtain ⟨i, hi⟩ : ∃ i, c.Wants turn i := by
    obtain ⟨next, hwaits, -⟩ := Relation.TransGen.head'_iff.1 h
    exact hwaits.wants
  exact lt_irrefl _ (idxOf_lt_of_transGen hnodup hordered h hi hi)

/-- If somebody wants an inode, somebody can take a turn. -/
lemma exists_step?_of_wants (hnodup : order.Nodup) (hordered : c.IsOrdered order) {turn : Nat}
    {i : Inode} (h : c.Wants turn i) : ∃ turn, (c.step? turn).isSome = true := by
  -- Follow the waits: the order rises with each of them, and it ends.
  induction hrank : order.length - order.idxOf i using Nat.strong_induction_on
    generalizing turn i with
  | h n ih =>
    obtain ⟨k, rest, hk, hdone, hrest⟩ := h
    cases hheld : c.isHeld i with
    | false =>
      refine ⟨turn, isSome_step?_iff.2 ⟨k, hk, hdone, fun j rest' hcons => ?_⟩⟩
      obtain ⟨rfl, -⟩ := List.cons.inj (hrest.symm.trans hcons)
      exact hheld
    | true =>
      obtain ⟨l, hmem, hi⟩ := isHeld_iff.1 hheld
      obtain ⟨other, hl⟩ := List.getElem?_of_mem hmem
      have hldone : l.isDone = false := by
        rw [← Bool.not_eq_true]
        intro hldone
        rw [(hordered l hmem).held_of_isDone hldone] at hi
        cases hi
      cases hlrest : l.rest with
      | nil =>
        refine ⟨other, isSome_step?_iff.2 ⟨l, hl, hldone, fun j rest' hcons => ?_⟩⟩
        rw [hlrest] at hcons
        cases hcons
      | cons j lrest =>
        have hj : c.Wants other j := ⟨l, lrest, hl, hldone, hlrest⟩
        have hlt := idxOf_lt_of_wants hnodup hordered hl hi hj
        have hlength : order.idxOf j < order.length := by
          apply List.idxOf_lt_length_of_mem
          apply (hordered l hmem).sublist.subset
          rw [hlrest]
          exact List.mem_append_right _ List.mem_cons_self
        exact ih (order.length - order.idxOf j) (by omega) hj rfl

/-- While somebody is not done, somebody can take a turn. -/
lemma exists_step?_of_not_isOver (hnodup : order.Nodup) (hordered : c.IsOrdered order)
    (h : c.isOver = false) : ∃ turn, (c.step? turn).isSome = true := by
  obtain ⟨k, hmem, hdone⟩ : ∃ k ∈ c.contenders, k.isDone = false := by
    simpa [isOver] using h
  obtain ⟨turn, hk⟩ := List.getElem?_of_mem hmem
  cases hrest : k.rest with
  | nil =>
    refine ⟨turn, isSome_step?_iff.2 ⟨k, hk, hdone, fun i rest hcons => ?_⟩⟩
    rw [hrest] at hcons
    cases hcons
  | cons i rest => exact exists_step?_of_wants hnodup hordered ⟨k, rest, hk, hdone, hrest⟩

/-- **Callers that wait do not wait for ever for each other.**  Any number of callers lock a
directory, each at a level of its own, and the targets of the full lock are different inodes.  After
any turns in any order, if some caller is not done, some caller can take a turn; and the callers that
wait for one another never form a circle. -/
theorem somebody_goes_on (directory : Bytes) (inodeOf : Target → Inode)
    (hdistinct : ((Level.full.targets directory).map inodeOf).Nodup) (levels : List Level)
    (turns : List Nat) :
    let c := (start directory inodeOf levels).run turns
    (c.isOver = false → ∃ turn, (c.step? turn).isSome = true) ∧
      ∀ turn, ¬ Relation.TransGen c.WaitsFor turn turn := by
  intro c
  have hordered : c.IsOrdered ((Level.full.targets directory).map inodeOf) :=
    isOrdered_run (isOrdered_start directory inodeOf levels) turns
  exact ⟨exists_step?_of_not_isOver hdistinct hordered, not_transGen_waitsFor hdistinct hordered⟩

/-- Three callers in each other's way: the first has the directory and the lock file of the running
container and waits for the exports, which the second has, and the third waits for the directory.
Only the second can take a turn. -/
theorem somebody_goes_on_threeCallers :
    let inodeOf (target : Target) : Inode := target.path.length
    let c := (start "d" inodeOf [.full, .exports, .full]).run [1, 0, 0, 0, 2]
    ((Level.full.targets "d").map inodeOf).Nodup ∧
      c.contenders = [⟨[1, 10], [14, 13], false⟩, ⟨[14], [], false⟩, ⟨[], [1, 10, 14, 13], false⟩] ∧
      (c.step? 0).isSome = false ∧ (c.step? 2).isSome = false ∧ c.WaitsFor 2 0 ∧ c.WaitsFor 0 1 ∧
      (∃ turn, (c.step? turn).isSome = true) ∧ ¬ Relation.TransGen c.WaitsFor 2 2 := by
  intro inodeOf c
  have hdistinct : ((Level.full.targets "d").map inodeOf).Nodup := by decide
  have hcontenders : c.contenders =
    [⟨[1, 10], [14, 13], false⟩, ⟨[14], [], false⟩, ⟨[], [1, 10, 14, 13], false⟩] := by decide
  obtain ⟨hgoes, hcircle⟩ := somebody_goes_on "d" inodeOf hdistinct [.full, .exports, .full]
    [1, 0, 0, 0, 2]
  refine ⟨hdistinct, hcontenders, by decide, by decide, ?_, ?_, hgoes (by decide), hcircle 2⟩
  · refine ⟨1, _, ⟨_, _, congrArg (·[2]?) hcontenders, rfl, rfl⟩,
      congrArg (·[0]?) hcontenders, by decide⟩
  · refine ⟨14, _, ⟨_, _, congrArg (·[0]?) hcontenders, rfl, rfl⟩,
      congrArg (·[1]?) hcontenders, by decide⟩

end Contention

end ContainerEntry.Lock
