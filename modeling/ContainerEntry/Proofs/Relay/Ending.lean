import Mathlib
import ContainerEntry.Proofs.Relay.Script

/-!
# How a copy ends

A copy meets faults on three kinds of call, passes some of them over, and ends with the first one
that it does not pass over, or with the end of the input.

* **A copy ends** (`exists_ended`), if its input does and only finitely many faults may be passed over:
  every call that does not end it lowers its `rank`, which looks at the reads to come first, then at
  the faults to come, then at what is left of the chunk (`exists_rank_lt`).
* **What ends a copy** (`exists_cause`): the end of the input, or the first fault that is not passed
  over (`EndsBy`); and either of them ends it at once (`stage_step_of_seesEnd`,
  `stage_step_of_final`).
* **A copy that has ended stays ended** (`run_of_ended`), so that its outcome is the one that its end
  calls for (`outcome_eq_iff`).

`ending_is_exact` says which outcome belongs to which of these, and that the count is that of the
chunks that got through.
-/

namespace ContainerEntry

/-- A fault that may be passed over: an interruption, or a peer that is missing. -/
def Fault.isTransient (f : Fault) : Bool := f.isInterrupted || f.isHangUp

namespace Relay

/-! ### Ends that come to an end -/

/-- The input is over behind so many reads, and from so many writes and so many flushes on, no fault
may be passed over. -/
structure Ends.IsBounded (e : Ends) (reads writes flushes : Nat) : Prop where
  /-- The input is over. -/
  read_eq : e.reads reads = .bytes []
  /-- Later writes do not fail in passing. -/
  write_final : ∀ i f, writes ≤ i → e.writes i = .fault f → f.isTransient = false
  /-- Later flushes do not fail in passing. -/
  flush_final : ∀ i f, flushes ≤ i → e.flushes i = some f → f.isTransient = false

namespace Ends.IsBounded

variable {e : Ends} {reads writes flushes : Nat}

/-- A read that does not see the end comes before it. -/
lemma afterRead (h : e.IsBounded reads writes flushes) (hread : e.reads 0 ≠ .bytes []) :
    0 < reads ∧ e.afterRead.IsBounded (reads - 1) writes flushes := by
  cases reads with
  | zero => exact absurd h.read_eq hread
  | succ reads => exact ⟨reads.succ_pos, h.read_eq, h.write_final, h.flush_final⟩

/-- A write uses up one write. -/
lemma afterWrite (h : e.IsBounded reads writes flushes) :
    e.afterWrite.IsBounded reads (writes - 1) flushes :=
  ⟨h.read_eq, fun i f hi => h.write_final (i + 1) f (by omega), h.flush_final⟩

/-- A flush uses up one flush. -/
lemma afterFlush (h : e.IsBounded reads writes flushes) :
    e.afterFlush.IsBounded reads writes (flushes - 1) :=
  ⟨h.read_eq, h.write_final, fun i f hi => h.flush_final (i + 1) f (by omega)⟩

/-- A write that fails in passing is one of the first. -/
lemma writes_pos (h : e.IsBounded reads writes flushes) {f : Fault} (hwrite : e.writes 0 = .fault f)
    (hf : f.isTransient = true) : 0 < writes := by
  by_contra hzero
  rw [h.write_final 0 f (by omega) hwrite] at hf
  cases hf

/-- A flush that fails in passing is one of the first. -/
lemma flushes_pos (h : e.IsBounded reads writes flushes) {f : Fault}
    (hflush : e.flushes 0 = some f) (hf : f.isTransient = true) : 0 < flushes := by
  by_contra hzero
  rw [h.flush_final 0 f (by omega) hflush] at hf
  cases hf

end Ends.IsBounded

/-- Where the input ends and finitely many faults may be passed over, all of this happens at first. -/
lemma Ends.exists_isBounded {e : Ends} (hinput : ∃ n, e.reads n = .bytes [])
    (hwrites : {i | ∃ f, e.writes i = .fault f ∧ f.isTransient}.Finite)
    (hflushes : {i | ∃ f, e.flushes i = some f ∧ f.isTransient}.Finite) :
    ∃ reads writes flushes, e.IsBounded reads writes flushes := by
  obtain ⟨reads, hend⟩ := hinput
  obtain ⟨writes, hw⟩ := hwrites.bddAbove
  obtain ⟨flushes, hf⟩ := hflushes.bddAbove
  refine ⟨reads, writes + 1, flushes + 1, hend, fun i f hi hwrite => ?_, fun i f hi hflush => ?_⟩
  · by_contra htransient
    have hle := hw ⟨f, hwrite, Bool.eq_true_of_not_eq_false htransient⟩
    omega
  · by_contra htransient
    have hle := hf ⟨f, hflush, Bool.eq_true_of_not_eq_false htransient⟩
    omega

namespace Copier

variable {c : Copier} {f : Fault} {reads writes flushes : Nat}

/-! ### Ranks -/

/-- A fault that is passed over is of the kind that may be. -/
lemma isTransient_of_passesOver (h : c.passesOver f = true) : f.isTransient = true := by
  have hpeer : c.awaitsPeer f = true → f.isHangUp = true := fun hawaits =>
    (Bool.and_eq_true_iff.1 hawaits).1
  unfold Fault.isTransient
  rw [Bool.or_eq_true]
  unfold passesOver at h
  split at h
  · exact (Bool.or_eq_true_iff.1 h).imp_right hpeer
  · exact (Bool.or_eq_true_iff.1 h).imp_right hpeer
  · exact .inr (hpeer h)
  · exact .inr (hpeer h)

/-- How far a copy is from its end, in an order that looks at the reads to come first, then at the
faults that may be passed over, and then at what is left of the chunk. -/
def rank (c : Copier) (reads writes flushes : Nat) : ℕ ×ₗ ℕ ×ₗ ℕ :=
  toLex (2 * reads + (if c.stage = .reading then 0 else 1), toLex (writes + flushes, c.left.length))

/-- A fault that is passed over leaves less to come. -/
lemma exists_bounds_of_fault (hbounded : c.ends.IsBounded reads writes flushes)
    (hfault : c.fault? = some f) (hover : c.passesOver f = true) :
    ∃ reads' writes' flushes', c.endsAfter.IsBounded reads' writes' flushes' ∧
      (c.stage = .reading ∧ reads' < reads ∨
        c.stage ≠ .reading ∧ reads' = reads ∧ writes' + flushes' < writes + flushes) := by
  have htransient := isTransient_of_passesOver hover
  unfold fault? at hfault
  unfold endsAfter
  split at hfault
  · next hstage =>
    have hread : c.ends.reads 0 ≠ .bytes [] := by
      intro hend
      simp [hend] at hfault
    obtain ⟨hpos, hafter⟩ := hbounded.afterRead hread
    simp only [hstage]
    exact ⟨_, _, _, hafter, .inl ⟨trivial, by omega⟩⟩
  · next hstage =>
    split at hfault
    · next g hwrite =>
      cases hfault
      have hpos := hbounded.writes_pos hwrite htransient
      simp only [hstage]
      exact ⟨_, _, _, hbounded.afterWrite, .inr ⟨by simp, rfl, by omega⟩⟩
    · cases hfault
      cases htransient
    · cases hfault
    · cases hfault
  · next hstage =>
    have hpos := hbounded.flushes_pos hfault htransient
    simp only [hstage]
    exact ⟨_, _, _, hbounded.afterFlush, .inr ⟨by simp, rfl, by omega⟩⟩
  · cases hfault

/-- **Every call ends the copy or lowers its rank.** -/
lemma exists_rank_lt (hsound : c.IsSound) (hbounded : c.ends.IsBounded reads writes flushes) :
    (∃ outcome, c.step.stage = .ended outcome) ∨
      ∃ reads' writes' flushes', c.step.ends.IsBounded reads' writes' flushes' ∧
        c.step.rank reads' writes' flushes' < c.rank reads writes flushes := by
  have hdoes := does_step c
  generalize c.step = c' at hdoes
  cases hdoes with
  | rest hstage => exact .inl ⟨_, hstage⟩
  | givesUp => exact .inl ⟨_, rfl⟩
  | seesEnd => exact .inl ⟨_, rfl⟩
  | repeats hfault hover =>
    obtain ⟨_, _, _, hafter, hlower⟩ := exists_bounds_of_fault hbounded hfault hover
    refine .inr ⟨_, _, _, hafter, ?_⟩
    simp only [rank, Prod.Lex.toLex_lt_toLex]
    rcases hlower with ⟨hstage, hlt⟩ | ⟨hstage, rfl, hlt⟩
    · exact .inl (by omega)
    · exact .inr ⟨rfl, .inl hlt⟩
  | restarts hfault hover _ hstage =>
    obtain ⟨_, _, _, hafter, hlower⟩ := exists_bounds_of_fault hbounded hfault hover
    refine .inr ⟨_, _, _, hafter, ?_⟩
    simp only [rank, Prod.Lex.toLex_lt_toLex]
    rcases hlower with ⟨hreading, hlt⟩ | ⟨hother, rfl, hlt⟩
    · exact absurd hreading (by rcases hstage with hstage | hstage <;> simp [hstage])
    · exact .inr ⟨by simp [hother], .inl hlt⟩
  | reads hstage hread hchunk =>
    have hne : c.ends.reads 0 ≠ .bytes [] := by
      rw [hread]
      simpa using hchunk
    obtain ⟨hpos, hafter⟩ := hbounded.afterRead hne
    refine .inr ⟨_, _, _, by simpa only [endsAfter, hstage] using hafter, ?_⟩
    simp only [rank, Prod.Lex.toLex_lt_toLex, hstage]
    exact .inl (by simp; omega)
  | @accepts n hstage _ hpos =>
    have hfits := hsound.fits
    simp only [Fits, hstage] at hfits
    have hlt : (c.left.drop n).length < c.left.length := by
      have hlength := List.length_pos_iff.2 hfits
      have hn : n ≠ 0 := fun h => hfits (hpos h)
      rw [List.length_drop]
      omega
    refine .inr ⟨_, _, _, by simpa only [accept, endsAfter, hstage] using hbounded.afterWrite, ?_⟩
    simp only [rank, Prod.Lex.toLex_lt_toLex, accept, hstage]
    refine .inr ⟨?_, ?_⟩
    · split <;> simp
    · rcases Nat.eq_zero_or_pos writes with rfl | hwrites
      · exact .inr ⟨rfl, hlt⟩
      · exact .inl (by simp; omega)
  | flushes hstage =>
    refine .inr ⟨_, _, _, by simpa only [endsAfter, hstage] using hbounded.afterFlush, ?_⟩
    simp only [rank, Prod.Lex.toLex_lt_toLex, hstage]
    exact .inl (by simp)

/-- **A copy ends whose input does, and of whose faults only finitely many may be passed over.** -/
lemma exists_ended (hsound : c.IsSound) (hbounded : c.ends.IsBounded reads writes flushes) :
    ∃ k outcome, (c.run k).stage = .ended outcome := by
  induction hrank : c.rank reads writes flushes using WellFoundedLT.induction
    generalizing c reads writes flushes with
  | ind r ih =>
    rcases exists_rank_lt hsound hbounded with ⟨outcome, hended⟩ | ⟨_, _, _, hafter, hlt⟩
    · exact ⟨1, outcome, hended⟩
    · obtain ⟨k, outcome, hended⟩ := ih _ (hrank ▸ hlt) (isSound_run hsound 1) hafter rfl
      exact ⟨k + 1, outcome, by rwa [run_succ]⟩

/-! ### What ends a copy -/

/-- What a fault makes of a copy that does not pass it over. -/
def outcomeOf (c : Copier) (f : Fault) : CopyOutcome :=
  if f.isHangUp then .hungUp c.count else .failed f

/-- A copy that sees the end of its input has finished. -/
lemma stage_step_of_seesEnd (h : c.SeesEnd) : c.step.stage = .ended (.finished c.count) := by
  rw [step_of_reading h.1, h.2]
  rfl

/-- A fault that is not passed over ends the copy. -/
lemma stage_step_of_final (hfault : c.fault? = some f) (hfinal : c.passesOver f = false) :
    c.step.stage = .ended (c.outcomeOf f) := by
  have hdoes := does_step c
  generalize c.step = c' at hdoes
  -- A call that goes on meets no fault, or passes its fault over.
  cases hdoes with
  | givesUp hother =>
    cases hother.symm.trans hfault
    rfl
  | repeats hother hover | restarts hother hover =>
    cases hother.symm.trans hfault
    rw [hover] at hfinal
    cases hfinal
  | rest hstage => simp [fault?, hstage] at hfault
  | seesEnd hend => simp [fault?, hend.1, hend.2] at hfault
  | reads hstage hread => simp [fault?, hstage, hread] at hfault
  | accepts _ hnone | flushes _ hnone => simp [hnone] at hfault

/-- A copy that ends with its next call sees the end of the input, or meets a fault that it does not
pass over. -/
lemma ended_cases {outcome : CopyOutcome} (hgoing : ∀ o, c.stage ≠ .ended o)
    (hended : c.step.stage = .ended outcome) :
    c.SeesEnd ∨ ∃ f, c.fault? = some f ∧ c.passesOver f = false := by
  have hdoes := does_step c
  generalize c.step = c' at hdoes hended
  cases hdoes with
  | rest hstage => exact absurd hstage (hgoing _)
  | seesEnd hend => exact .inl hend
  | givesUp hfault hfinal => exact .inr ⟨_, hfault, hfinal⟩
  | repeats => exact absurd hended (hgoing _)
  | restarts | reads | flushes => cases hended
  | accepts =>
    simp only [accept] at hended
    split at hended <;> cases hended

/-- A copy that has ended stays as it is. -/
lemma run_of_ended {outcome : CopyOutcome} (hended : c.stage = .ended outcome) (k : Nat) :
    c.run k = c := by
  induction k with
  | zero => rfl
  | succ k ih => rw [run, ih, step_of_ended hended]

/-- A copy ends with one outcome. -/
lemma outcome_unique {j k : Nat} {outcome other : CopyOutcome}
    (hj : (c.run j).stage = .ended outcome) (hk : (c.run k).stage = .ended other) :
    outcome = other := by
  rcases Nat.le_total j k with hle | hle
  · obtain ⟨m, rfl⟩ := Nat.exists_eq_add_of_le hle
    rw [run_add, run_of_ended hj, hj] at hk
    exact Stage.ended.inj hk
  · obtain ⟨m, rfl⟩ := Nat.exists_eq_add_of_le hle
    rw [run_add, run_of_ended hk, hk] at hj
    exact (Stage.ended.inj hj).symm

/-- A copy that has ended did so with some call. -/
lemma exists_last {k : Nat} {outcome : CopyOutcome} (hgoing : ∀ o, c.stage ≠ .ended o)
    (hended : (c.run k).stage = .ended outcome) :
    ∃ j < k, (∀ o, (c.run j).stage ≠ .ended o) ∧ (c.run (j + 1)).stage = .ended outcome := by
  induction k with
  | zero => exact absurd hended (hgoing _)
  | succ k ih =>
    by_cases hbefore : ∃ o, (c.run k).stage = .ended o
    · obtain ⟨o, ho⟩ := hbefore
      have hsame : (c.run k).stage = .ended outcome := by
        rw [run, step_of_ended ho] at hended
        exact hended
      obtain ⟨j, hlt, hj⟩ := ih hsame
      exact ⟨j, hlt.trans (Nat.lt_succ_self k), hj⟩
    · exact ⟨k, Nat.lt_succ_self k, not_exists.1 hbefore, hended⟩

/-- A copy meets a fault with its next call after so many, which is the first one that it does not
pass over. -/
structure EndsBy (c : Copier) (k : Nat) (f : Fault) : Prop where
  /-- The fault is met. -/
  meets : (c.run k).fault? = some f
  /-- It is not passed over. -/
  final : (c.run k).passesOver f = false
  /-- All faults before it are. -/
  first : ∀ j < k, ∀ g, (c.run j).fault? = some g → (c.run j).passesOver g = true

/-- As long as a copy goes on, it passes over every fault. -/
lemma passesOver_of_going {j k : Nat} (hlt : j < k) (hgoing : ∀ o, (c.run k).stage ≠ .ended o)
    {g : Fault} (hfault : (c.run j).fault? = some g) : (c.run j).passesOver g = true := by
  by_contra hfinal
  have hended := stage_step_of_final hfault (Bool.eq_false_of_not_eq_true hfinal)
  obtain ⟨m, rfl⟩ := Nat.exists_eq_add_of_lt hlt
  have hlater : c.run (j + m + 1) = (c.run j).step := by
    rw [Nat.add_right_comm, run_add]
    exact run_of_ended hended m
  exact hgoing _ (hlater ▸ hended)

/-- **A copy that has ended saw the end of its input, or met a fault that it does not pass over.** -/
lemma exists_cause {k : Nat} {outcome : CopyOutcome} (hgoing : ∀ o, c.stage ≠ .ended o)
    (hended : (c.run k).stage = .ended outcome) :
    (∃ j, (c.run j).SeesEnd ∧ outcome = .finished (c.run j).count) ∨
      ∃ j f, c.EndsBy j f ∧ outcome = (c.run j).outcomeOf f := by
  obtain ⟨j, -, hlast, hnext⟩ := exists_last hgoing hended
  rcases ended_cases hlast hnext with hend | ⟨f, hfault, hfinal⟩
  · have hfinished : (c.run (j + 1)).stage = _ := stage_step_of_seesEnd hend
    exact .inl ⟨j, hend, outcome_unique hnext hfinished⟩
  · have hfirst : c.EndsBy j f :=
      ⟨hfault, hfinal, fun i hi g hg => passesOver_of_going hi hlast hg⟩
    have hmade : (c.run (j + 1)).stage = _ := stage_step_of_final hfault hfinal
    exact .inr ⟨j, f, hfirst, outcome_unique hnext hmade⟩

/-- A copy that has seen the end of its input has got every chunk through. -/
lemma IsSound.through_eq_of_seesEnd (h : c.IsSound) (hend : c.SeesEnd) : c.through = c.chunks := by
  have hfits := h.fits
  simp only [Fits, hend.1] at hfits
  rw [h.chunks_eq, pending, hfits.1, hfits.2]
  exact (List.append_nil _).symm

/-- A missing peer is passed over until a chunk has got through. -/
lemma through_ne_nil_of_final (hhangUp : f.isHangUp = true) (hfinal : c.passesOver f = false) :
    c.through ≠ [] := by
  intro hnil
  have hawaits : c.awaitsPeer f = true := by simp [awaitsPeer, hhangUp, hnil]
  unfold passesOver at hfinal
  split at hfinal <;> simp [hawaits] at hfinal

/-- What has got through is not nothing. -/
lemma IsSound.count_pos (h : c.IsSound) (hthrough : c.through ≠ []) : 0 < c.count := by
  have hcount := h.count_ne_zero
  rw [List.isEmpty_eq_false_iff.2 hthrough, Bool.not_false, bne_iff_ne] at hcount
  exact Nat.pos_of_ne_zero hcount

/-! ### Outcomes -/

variable {e : Ends} {k : Nat} {outcome : CopyOutcome}

/-- What a fault makes of a copy is no finish. -/
lemma outcomeOf_ne_finished (f : Fault) (n : Nat) : c.outcomeOf f ≠ .finished n := by
  unfold outcomeOf
  split <;> simp

/-- A missing peer hangs up, with what has got through. -/
lemma outcomeOf_eq_hungUp_iff {n : Nat} :
    c.outcomeOf f = .hungUp n ↔ f.isHangUp = true ∧ n = c.count := by
  unfold outcomeOf
  cases f.isHangUp <;> simp [eq_comm]

/-- Every other fault is reported. -/
lemma outcomeOf_eq_failed_iff {g : Fault} :
    c.outcomeOf f = .failed g ↔ f = g ∧ f.isHangUp = false := by
  unfold outcomeOf
  cases f.isHangUp <;> simp

/-- **The outcome of a copy is what ended it**: the end of its input, or the first fault that it does
not pass over. -/
lemma outcome_eq_iff (hended : ((start e).run k).stage = .ended outcome) (o : CopyOutcome) :
    outcome = o ↔ (∃ j, ((start e).run j).SeesEnd ∧ o = .finished ((start e).run j).count) ∨
      ∃ j f, (start e).EndsBy j f ∧ ((start e).run j).outcomeOf f = o := by
  constructor
  · rintro rfl
    rcases exists_cause (by simp [start]) hended with hend | ⟨j, f, hends, hmade⟩
    · exact .inl hend
    · exact .inr ⟨j, f, hends, hmade.symm⟩
  · rintro (⟨j, hend, rfl⟩ | ⟨j, f, hends, rfl⟩)
    · have hfinished : ((start e).run (j + 1)).stage = _ := stage_step_of_seesEnd hend
      exact outcome_unique hended hfinished
    · have hmade : ((start e).run (j + 1)).stage = _ := stage_step_of_final hends.meets hends.final
      exact outcome_unique hended hmade

/-- A copy finishes if and only if it sees the end of its input, with every chunk through. -/
lemma outcome_eq_finished_iff (hended : ((start e).run k).stage = .ended outcome) (n : Nat) :
    outcome = .finished n ↔ ∃ j, ((start e).run j).SeesEnd ∧
      ((start e).run j).through = ((start e).run j).chunks ∧
        n = ((start e).run j).through.flatten.length := by
  rw [outcome_eq_iff hended]
  constructor
  · rintro (⟨j, hend, hn⟩ | ⟨j, f, -, hmade⟩)
    · exact ⟨j, hend, (isSound_run (isSound_start e) j).through_eq_of_seesEnd hend,
        CopyOutcome.finished.inj hn⟩
    · exact absurd hmade (outcomeOf_ne_finished f n)
  · rintro ⟨j, hend, -, hn⟩
    exact .inl ⟨j, hend, congrArg _ hn⟩

/-- A copy is hung up if and only if the peer is missing once a chunk has got through. -/
lemma outcome_eq_hungUp_iff (hended : ((start e).run k).stage = .ended outcome) (n : Nat) :
    outcome = .hungUp n ↔ ∃ j f, (start e).EndsBy j f ∧ f.isHangUp = true ∧
      ((start e).run j).through ≠ [] ∧ n = ((start e).run j).through.flatten.length := by
  rw [outcome_eq_iff hended]
  constructor
  · rintro (⟨j, -, hn⟩ | ⟨j, f, hends, hmade⟩)
    · cases hn
    · obtain ⟨hhangUp, hn⟩ := outcomeOf_eq_hungUp_iff.1 hmade
      exact ⟨j, f, hends, hhangUp, through_ne_nil_of_final hhangUp hends.final, hn⟩
  · rintro ⟨j, f, hends, hhangUp, -, hn⟩
    exact .inr ⟨j, f, hends, outcomeOf_eq_hungUp_iff.2 ⟨hhangUp, hn⟩⟩

/-- A copy fails if and only if it meets another fault that it does not pass over. -/
lemma outcome_eq_failed_iff (hended : ((start e).run k).stage = .ended outcome) (f : Fault) :
    outcome = .failed f ↔ ∃ j, (start e).EndsBy j f ∧ f.isHangUp = false := by
  rw [outcome_eq_iff hended]
  constructor
  · rintro (⟨j, -, hn⟩ | ⟨j, g, hends, hmade⟩)
    · cases hn
    · obtain ⟨rfl, hfinal⟩ := outcomeOf_eq_failed_iff.1 hmade
      exact ⟨j, hends, hfinal⟩
  · rintro ⟨j, hends, hfinal⟩
    exact .inr ⟨j, f, hends, outcomeOf_eq_failed_iff.2 ⟨rfl, hfinal⟩⟩

/-- A copy that is hung up has got something through. -/
lemma pos_of_hungUp (hended : ((start e).run k).stage = .ended outcome) {n : Nat}
    (h : outcome = .hungUp n) : 0 < n := by
  obtain ⟨j, f, -, -, hthrough, rfl⟩ := (outcome_eq_hungUp_iff hended n).1 h
  exact (isSound_run (isSound_start e) j).count_pos hthrough

/-- **A copy ends, and its outcome is exact.**  If the input ends and finitely many calls of the
writer fail in a way that may be passed over, the copy ends with one outcome.  It has finished if and
only if it saw the end of its input, with every chunk written whole and flushed; it is hung up if and
only if the first fault that it does not pass over tells that the peer is missing, and then some chunk
has got through; it has failed if and only if that fault is another one.  The count is that of the
chunks that got through, and along scripts `copy` returns the same outcome. -/
theorem ending_is_exact (e : Ends) (hinput : ∃ n, e.reads n = .bytes [])
    (hwrites : {i | ∃ f, e.writes i = .fault f ∧ f.isTransient}.Finite)
    (hflushes : {i | ∃ f, e.flushes i = some f ∧ f.isTransient}.Finite) :
    ∃ k outcome, ((start e).run k).stage = .ended outcome ∧
      (∀ n, outcome = .finished n ↔ ∃ j, ((start e).run j).SeesEnd ∧
        ((start e).run j).through = ((start e).run j).chunks ∧
          n = ((start e).run j).through.flatten.length) ∧
      (∀ n, outcome = .hungUp n ↔ ∃ j f, (start e).EndsBy j f ∧ f.isHangUp = true ∧
        ((start e).run j).through ≠ [] ∧ n = ((start e).run j).through.flatten.length) ∧
      (∀ f, outcome = .failed f ↔ ∃ j, (start e).EndsBy j f ∧ f.isHangUp = false) ∧
      (∀ n, outcome = .hungUp n → 0 < n) ∧
      ∀ reads writes flushes, e = .ofScripts reads writes flushes →
        (copy reads writes flushes).1 = outcome := by
  obtain ⟨reads, writes, flushes, hbounded⟩ := Ends.exists_isBounded hinput hwrites hflushes
  obtain ⟨k, outcome, hended⟩ := exists_ended (isSound_start e) hbounded
  refine ⟨k, outcome, hended, outcome_eq_finished_iff hended, outcome_eq_hungUp_iff hended,
    outcome_eq_failed_iff hended, fun n => pos_of_hungUp hended, ?_⟩
  rintro reads writes flushes rfl
  obtain ⟨m, hcopy, -⟩ := comesTo_copy reads writes flushes
  exact outcome_unique hcopy hended

/-- The ends of a copy whose peer is missing at first, and whose writer accepts one byte at a time once
it is no longer interrupted. -/
def haltingEnds : Ends where
  reads i := [.fault (.os .ioError), .bytes "hello"].getD i (.bytes [])
  writes i := if i < 2 then .fault (.os .interrupted) else .atMost 1
  flushes i := if i = 0 then some (.os .ioError) else none

/-- Such a copy finishes, with five bytes through. -/
theorem halting_finishes : (∃ n, haltingEnds.reads n = .bytes []) ∧
    {i | ∃ f, haltingEnds.writes i = .fault f ∧ f.isTransient}.Finite ∧
    {i | ∃ f, haltingEnds.flushes i = some f ∧ f.isTransient}.Finite ∧
    ((start haltingEnds).run 17).stage = .ended (.finished 5) ∧
    ∃ j, ((start haltingEnds).run j).SeesEnd ∧
      ((start haltingEnds).run j).through = ((start haltingEnds).run j).chunks ∧
        5 = ((start haltingEnds).run j).through.flatten.length := by
  have hinput : ∃ n, haltingEnds.reads n = .bytes [] := ⟨2, rfl⟩
  have hwrites : {i | ∃ f, haltingEnds.writes i = .fault f ∧ f.isTransient}.Finite := by
    refine (Set.finite_lt_nat 2).subset fun i hi => ?_
    obtain ⟨f, hf, -⟩ := hi
    by_contra hlate
    have hwrite : haltingEnds.writes i = .atMost 1 := if_neg hlate
    cases hwrite.symm.trans hf
  have hflushes : {i | ∃ f, haltingEnds.flushes i = some f ∧ f.isTransient}.Finite := by
    refine (Set.finite_singleton 0).subset fun i hi => ?_
    obtain ⟨f, hf, -⟩ := hi
    by_contra hlate
    have hflush : haltingEnds.flushes i = none := if_neg hlate
    cases hflush.symm.trans hf
  have hlast : ((start haltingEnds).run 17).stage = .ended (.finished 5) := by decide
  obtain ⟨k, outcome, hended, hfinished, -⟩ :=
    ending_is_exact haltingEnds hinput hwrites hflushes
  exact ⟨hinput, hwrites, hflushes, hlast, (hfinished 5).1 (outcome_unique hended hlast)⟩

end Copier

end Relay

end ContainerEntry
