import Mathlib
import ContainerEntry.Relay.Delivery

/-!
# Signals to a child that was reaped

A delivery looks into the slot, then at the mark that says that the child was reaped, and then it
sends.  The thread that waits reaps first, and only then sets the mark and empties the slot.
Nothing holds the one up while the other is between two of its turns, so a signal can go to a
process number that is no longer the child's.

* **A delivery goes its own way** (`deliveries_run`): where it ends depends only on how far the
  thread that waits was at each of its turns (`moments`).
* **It sends late in one way only** (`sends_late_iff`): it looked at the mark before the mark was
  set, and sent after the child was reaped.

`isLate_run_iff` says it of the turns themselves, for every order of them and any number of
deliveries.
-/

namespace ContainerEntry.Relay

/-! ### One delivery -/

/-- Where the thread that waits stands after so many turns. -/
def Waiter.after : Nat → Waiter
  | 0 => .waiting
  | 1 => .reaped
  | 2 => .marked
  | _ + 3 => .cleared

/-- A delivery after its next turn, if it has one, when the thread that waits has taken so many. -/
def Delivery.goOn (d : Delivery) (taken : Nat) : Delivery :=
  (Race.Delivery.next? (.after taken) d).getD d

namespace Race

/-- How many turns the thread that waits has taken at each turn of a delivery, if it has taken some
to begin with. -/
def moments (i : Nat) : (taken : Nat) → List Turn → List Nat
  | _, [] => []
  | k, .waiter :: turns => moments i (k + 1) turns
  | k, .delivery j :: turns => if j = i then k :: moments i k turns else moments i k turns

variable {r : Race} {k : Nat}

/-- The thread that waits is one turn further after its turn. -/
lemma step?_waiter (h : r.waiter = .after k) :
    (r.step? .waiter).getD r = { r with waiter := .after (k + 1) } := by
  obtain ⟨w, deliveries⟩ := r
  obtain rfl : w = .after k := h
  match k with
  | 0 | 1 | 2 => rfl
  | k + 3 => rfl

/-- A turn of a delivery leaves the thread that waits where it is. -/
lemma waiter_step?_delivery (r : Race) (j : Nat) :
    ((r.step? (.delivery j)).getD r).waiter = r.waiter := by
  simp only [step?]
  cases r.deliveries[j]?.bind (Delivery.next? r.waiter) <;> rfl

/-- A turn of a delivery takes that delivery further, and no other. -/
lemma deliveries_step?_delivery (h : r.waiter = .after k) (i j : Nat) :
    ((r.step? (.delivery j)).getD r).deliveries[i]? =
      r.deliveries[i]?.map fun d => if j = i then d.goOn k else d := by
  simp only [step?, h]
  cases hj : r.deliveries[j]? with
  | none =>
    by_cases hij : j = i
    · simp [← hij, hj]
    · simp [hij]
  | some d =>
    have hlt : j < r.deliveries.length := (List.getElem?_eq_some_iff.1 hj).1
    by_cases hij : j = i
    · subst hij
      cases hnext : Delivery.next? (.after k) d with
      | none => simp [hj, hnext, Relay.Delivery.goOn]
      | some d' =>
        simp only [Option.bind_some, hnext, Option.map_some, Option.getD_some]
        rw [List.getElem?_set_self hlt, hj]
        simp [Relay.Delivery.goOn, hnext]
    · cases hnext : Delivery.next? (.after k) d with
      | none => simp [hij, hnext]
      | some d' => simp [hij, hnext, List.getElem?_set_ne hij]

/-- **A delivery goes its own way**: where it is after a run depends only on how far the thread that
waits was at each of its turns. -/
lemma deliveries_run (h : r.waiter = .after k) (i : Nat) (turns : List Turn) :
    (r.run turns).deliveries[i]? =
      r.deliveries[i]?.map fun d => (moments i k turns).foldl Relay.Delivery.goOn d := by
  -- The state changes with every turn, but all that a delivery sees of it is `k`.
  induction turns generalizing r k with
  | nil => simp [run, moments]
  | cons turn turns ih =>
    have hrun : r.run (turn :: turns) = ((r.step? turn).getD r).run turns := rfl
    cases turn with
    | waiter =>
      rw [hrun, step?_waiter h, ih rfl]
      rfl
    | delivery j =>
      rw [hrun, ih ((waiter_step?_delivery r j).trans h), deliveries_step?_delivery h,
        Option.map_map, moments]
      split_ifs <;> rfl

/-! ### Three turns -/

/-- A delivery that is over stays so. -/
lemma foldl_goOn_of_over {d : Relay.Delivery} (h : ∀ w, Delivery.next? w d = none)
    (ms : List Nat) : ms.foldl Relay.Delivery.goOn d = d := by
  induction ms with
  | nil => rfl
  | cons m ms ih =>
    have hstays : d.goOn m = d := by rw [Relay.Delivery.goOn, h, Option.getD_none]
    rw [List.foldl_cons, hstays, ih]

/-- A delivery finds the session unless the slot is empty. -/
lemma goOn_idle (k : Nat) :
    Relay.Delivery.goOn .idle k = if k ≤ 2 then .found else .dropped := by
  match k with
  | 0 | 1 | 2 => rfl
  | k + 3 => rfl

/-- A delivery may send unless the mark is set. -/
lemma goOn_found (k : Nat) :
    Relay.Delivery.goOn .found k = if k ≤ 1 then .allowed else .dropped := by
  match k with
  | 0 | 1 | 2 => rfl
  | k + 3 => rfl

/-- A delivery that may send sends, to whomever the process number belongs. -/
lemma goOn_allowed (k : Nat) : Relay.Delivery.goOn .allowed k = .sent (decide (1 ≤ k)) := by
  match k with
  | 0 | 1 | 2 => rfl
  | k + 3 => rfl

/-- **A delivery sends late in one way only**: at its second turn the mark was not set, and at its
third the child was reaped. -/
lemma sends_late_iff (ms : List Nat) :
    ms.foldl Relay.Delivery.goOn .idle = .sent true ↔
      ∃ a b c rest, ms = a :: b :: c :: rest ∧ a ≤ 2 ∧ b ≤ 1 ∧ 1 ≤ c := by
  have hdropped : ∀ ms : List Nat, ms.foldl Relay.Delivery.goOn .dropped = .dropped :=
    foldl_goOn_of_over fun _ => rfl
  match ms with
  | [] => simp
  | [a] =>
    rw [List.foldl_cons, goOn_idle]
    split_ifs <;> simp
  | [a, b] =>
    rw [List.foldl_cons, List.foldl_cons, goOn_idle]
    split_ifs
    · rw [goOn_found]
      split_ifs <;> simp
    · rw [← List.foldl_cons, hdropped]
      simp
  | a :: b :: c :: rest =>
    have hsent : rest.foldl Relay.Delivery.goOn (.sent (decide (1 ≤ c))) =
        .sent (decide (1 ≤ c)) := foldl_goOn_of_over (fun _ => rfl) rest
    rw [List.foldl_cons, goOn_idle]
    by_cases ha : a ≤ 2
    · rw [if_pos ha, List.foldl_cons, goOn_found]
      by_cases hb : b ≤ 1
      · rw [if_pos hb, List.foldl_cons, goOn_allowed, hsent]
        simp [ha, hb]
      · rw [if_neg hb, hdropped]
        simp [hb]
    · rw [if_neg ha, hdropped]
      simp [ha]

/-! ### Turns -/

/-- What a delivery sees at its first turn are the turns in front of it. -/
lemma moments_eq_cons_iff {i m : Nat} {ms : List Nat} {turns : List Turn} :
    moments i k turns = m :: ms ↔ ∃ before rest,
      turns = before ++ .delivery i :: rest ∧ .delivery i ∉ before ∧
        k + before.count .waiter = m ∧ moments i m rest = ms := by
  constructor
  · intro h
    induction turns generalizing k with
    | nil => cases h
    | cons turn turns ih =>
      by_cases hturn : turn = .delivery i
      · subst hturn
        rw [moments, if_pos rfl] at h
        obtain ⟨rfl, rfl⟩ := List.cons.inj h
        exact ⟨[], turns, rfl, List.not_mem_nil, rfl, rfl⟩
      · cases turn with
        | waiter =>
          obtain ⟨before, rest, rfl, hnot, hcount, hrest⟩ := ih h
          refine ⟨.waiter :: before, rest, rfl, ?_, ?_, hrest⟩
          · simp [hnot]
          · rw [List.count_cons_self]
            omega
        | delivery j =>
          have hj : j ≠ i := fun heq => hturn (by rw [heq])
          rw [moments, if_neg hj] at h
          obtain ⟨before, rest, rfl, hnot, hcount, hrest⟩ := ih h
          refine ⟨.delivery j :: before, rest, rfl, ?_, ?_, hrest⟩
          · simp [hnot, Ne.symm hj]
          · rw [List.count_cons_of_ne (by simp)]
            exact hcount
  · rintro ⟨before, rest, rfl, hnot, hcount, hrest⟩
    induction before generalizing k with
    | nil =>
      obtain rfl : k = m := hcount
      rw [List.nil_append, moments, if_pos rfl, hrest]
    | cons turn before ih =>
      obtain ⟨hturn, hbefore⟩ := not_or.1 (List.mem_cons.not.1 hnot)
      cases turn with
      | waiter =>
        rw [List.count_cons_self] at hcount
        exact ih hbefore (by omega)
      | delivery j =>
        have hj : j ≠ i := fun heq => hturn (by rw [heq])
        rw [List.count_cons_of_ne (by simp)] at hcount
        rw [List.cons_append, moments, if_neg hj]
        exact ih hbefore hcount

/-- A delivery overtakes the mark: its first three turns are one to find the session, one to look at
the mark before that is set, at the second turn of the thread that waits, and one to send after the
child was reaped, at the first. -/
def Overtakes (turns : List Turn) (i : Nat) : Prop :=
  ∃ finding looking sending rest,
    turns = finding ++ .delivery i :: (looking ++ .delivery i :: (sending ++ .delivery i :: rest)) ∧
    .delivery i ∉ finding ∧ .delivery i ∉ looking ∧ .delivery i ∉ sending ∧
    (finding ++ looking).count .waiter ≤ 1 ∧ 1 ≤ (finding ++ looking ++ sending).count .waiter

/-- A delivery sends late if and only if it overtakes the mark. -/
lemma sends_late_moments_iff (i : Nat) (turns : List Turn) :
    (moments i 0 turns).foldl Relay.Delivery.goOn .idle = .sent true ↔ Overtakes turns i := by
  rw [sends_late_iff]
  constructor
  · rintro ⟨a, b, c, rest, hmoments, ha, hb, hc⟩
    obtain ⟨finding, _, rfl, hfinding, hcounta, hmoments⟩ := moments_eq_cons_iff.1 hmoments
    obtain ⟨looking, _, rfl, hlooking, hcountb, hmoments⟩ := moments_eq_cons_iff.1 hmoments
    obtain ⟨sending, rest, rfl, hsending, hcountc, -⟩ := moments_eq_cons_iff.1 hmoments
    refine ⟨finding, looking, sending, rest, rfl, hfinding, hlooking, hsending, ?_, ?_⟩
    · rw [List.count_append]
      omega
    · rw [List.count_append, List.count_append]
      omega
  · rintro ⟨finding, looking, sending, rest, rfl, hfinding, hlooking, hsending, hb, hc⟩
    rw [List.count_append] at hb
    rw [List.count_append, List.count_append] at hc
    refine ⟨_, _, _, _, moments_eq_cons_iff.2 ⟨finding, _, rfl, hfinding, rfl,
      moments_eq_cons_iff.2 ⟨looking, _, rfl, hlooking, rfl,
        moments_eq_cons_iff.2 ⟨sending, rest, rfl, hsending, rfl, rfl⟩⟩⟩, ?_, ?_, ?_⟩ <;> omega

/-- **A signal is sent to a process number that is no longer the child's if and only if some
delivery overtakes the mark**: it looks at the mark before that is set and sends after the child was
reaped. This holds for any number of deliveries and every order of turns. -/
theorem isLate_run_iff (n : Nat) (turns : List Turn) :
    ((start n).run turns).isLate = true ↔ ∃ i < n, Overtakes turns i := by
  have hplace : ∀ i, ((start n).run turns).deliveries[i]? = some (.sent true) ↔
      i < n ∧ Overtakes turns i := by
    intro i
    have hstart : (start n).waiter = .after 0 := rfl
    rw [deliveries_run hstart, start, List.getElem?_replicate]
    by_cases hi : i < n
    · rw [if_pos hi, Option.map_some, Option.some.injEq, sends_late_moments_iff]
      simp [hi]
    · simp [hi]
  simp only [isLate, List.any_eq_true, beq_iff_eq]
  constructor
  · rintro ⟨d, hmem, rfl⟩
    obtain ⟨i, hi⟩ := List.getElem?_of_mem hmem
    exact ⟨i, (hplace i).1 hi⟩
  · rintro ⟨i, hi⟩
    exact ⟨_, List.mem_of_getElem? ((hplace i).2 hi), rfl⟩

/-- A delivery finds the session and no mark; then the child is reaped; and then, before the mark is
set, the delivery sends. -/
theorem late_before_mark :
    let looked := (start 1).run [.delivery 0, .delivery 0, .waiter]
    looked.waiter = .reaped ∧ looked.deliveries = [.allowed] ∧ looked.isLate = false ∧
      (looked.step? (.delivery 0)).any isLate = true ∧
      ((start 1).run [.delivery 0, .delivery 0, .waiter, .delivery 0]).isLate = true := by
  decide

end Race

end ContainerEntry.Relay
