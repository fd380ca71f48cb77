import Mathlib
import ContainerEntry.Proofs.Lock.Tally
import ContainerEntry.Stop.Course

/-!
# The order of a stop

A stop signals a machine and then waits for a lock.  Each of its calls may fail, and others act
between them, so what a stop may have done by a certain turn is told by where it stands.

* **Where a stop stands, it has done so much** (`Stands`, `stands_step`): one constructor for each
  stage and for each way to give up.
* **What is sent suits the container** (`suits_of_resolve`).
* **Before the lock file is opened a stop touches nothing** (`holders_eq_of_unopened`): the files and
  the locks are what others alone have made of them.
* **The lock that a stop takes is kept** (`isSound_run`), which rests on the tally of all locks.

`stops_in_order` says this of every sequence of turns, and that `stop` is the sequence in which
nobody but the supervisor acts.
-/

namespace ContainerEntry

open Lock

/-! ### What is sent -/

namespace StopRequest

/-- Whether a signal may be sent for a request: a booted container is powered off or rebooted, through
its leader only, and the others are terminated or killed. -/
def Suits (q : StopRequest) (sent : StopSignal) : Prop :=
  if q.container.config.boot then
    q.everyProcess = false ∧
      (sent.number = StopSignal.realTimeMin + 4 ∨ sent.number = Signal.interrupt.number)
  else sent.number = Signal.terminate.number ∨ sent.number = Signal.kill.number

variable {q : StopRequest} {sent : StopSignal}

/-- What is sent suits the container. -/
lemma suits_of_resolve (h : q.resolve = .ok sent) : q.Suits sent := by
  unfold resolve StopSignal.resolve at h
  unfold Suits
  cases hboot : q.container.config.boot with
  | true =>
    cases hevery : q.everyProcess with
    | true =>
      rw [hboot, hevery] at h
      cases h
    | false =>
      rw [hboot, hevery] at h
      refine ⟨rfl, ?_⟩
      cases hsignal : q.signal <;> rw [hsignal] at h <;> cases h
      · exact .inl rfl
      · exact .inl rfl
      · exact .inr rfl
  | false =>
    rw [hboot, Bool.false_and] at h
    cases hsignal : q.signal <;> rw [hsignal] at h <;> cases h
    · exact .inl rfl
    · exact .inl rfl
    · exact .inr rfl

/-- What is sent is a signal. -/
lemma Suits.number_ne_zero (h : q.Suits sent) : sent.number ≠ 0 := by
  unfold Suits at h
  split_ifs at h
  · rcases h.2 with h | h <;> rw [h] <;> decide
  · rcases h with h | h <;> rw [h] <;> decide

/-- The lock was refused, or could not be opened. -/
def IsLockFailure (q : StopRequest) (failure : Failure) : Prop :=
  failure = .lockUnavailable q.lockFile ∨ ∃ errno, failure = .lock q.lockFile errno

end StopRequest

namespace Stopping

variable {q : StopRequest} {s : Stopping} {a : StopAnswer} {h : Holders}
  {turns : List StopTurn}

/-! ### Where a stop stands -/

/-- What a stop has done, by where it stands. -/
inductive Stands (q : StopRequest) : StopStage → List StopAct → Prop where
  /-- Nothing. -/
  | resolving : Stands q .resolving []
  /-- Nothing, as the request does not suit the container. -/
  | unsuited {signal : StopSignal} {cause : StopSignal.Misfit}
    (hresolve : q.resolve = .error (signal, cause)) :
    Stands q (.failed (.unsupportedSignal signal q.container.name cause)) []
  /-- Nothing that could be noticed. -/
  | connecting {sent : StopSignal} (hresolve : q.resolve = .ok sent) : Stands q (.connecting sent) []
  /-- It could not connect to the bus. -/
  | unconnected : Stands q (.failed (.bus .connect)) [.connects]
  /-- It has connected. -/
  | addressing {sent : StopSignal} (hresolve : q.resolve = .ok sent) :
    Stands q (.addressing sent) [.connects]
  /-- It could not address the registry. -/
  | unaddressed : Stands q (.failed (.bus .manager)) [.connects, .addresses]
  /-- It has addressed the registry. -/
  | sending {sent : StopSignal} (hresolve : q.resolve = .ok sent) :
    Stands q (.sending sent) [.connects, .addresses]
  /-- Its request did not reach the bus. -/
  | unsent : Stands q (.failed (.bus (.killMachine q.machine))) [.connects, .addresses]
  /-- It has sent its request. -/
  | answering {sent : StopSignal} (hresolve : q.resolve = .ok sent) :
    Stands q .answering [.connects, .addresses, .calls (q.call sent)]
  /-- Its request was refused. -/
  | refused {sent : StopSignal} (hresolve : q.resolve = .ok sent) :
    Stands q (.failed (.bus (.killMachine q.machine))) [.connects, .addresses, .calls (q.call sent)]
  /-- It has been answered. -/
  | opening {sent : StopSignal} (hresolve : q.resolve = .ok sent) :
    Stands q .opening [.connects, .addresses, .calls (q.call sent), .answered]
  /-- It has opened the lock file. -/
  | locking {sent : StopSignal} (hresolve : q.resolve = .ok sent) (i : Inode) :
    Stands q (.locking i) [.connects, .addresses, .calls (q.call sent), .answered, .opens]
  /-- It did not get the lock. -/
  | unlocked {sent : StopSignal} (hresolve : q.resolve = .ok sent) {failure : Failure}
    (hfailure : q.IsLockFailure failure) :
    Stands q (.failed failure) [.connects, .addresses, .calls (q.call sent), .answered, .opens]
  /-- It has the lock. -/
  | stopped {sent : StopSignal} (hresolve : q.resolve = .ok sent) (i : Inode) :
    Stands q (.stopped i)
      [.connects, .addresses, .calls (q.call sent), .answered, .opens, .locks i]

/-- Opening the lock file leads to the wait for its lock, or is given up. -/
lemma stands_openLock {sent : StopSignal} (hresolve : q.resolve = .ok sent) (h : Holders) :
    Stands q (openLock q a ⟨.opening,
        [.connects, .addresses, .calls (q.call sent), .answered, .opens], h⟩).stage
      (openLock q a ⟨.opening,
        [.connects, .addresses, .calls (q.call sent), .answered, .opens], h⟩).acts := by
  unfold openLock
  split
  · exact .unlocked hresolve (.inr ⟨_, rfl⟩)
  · split
    · exact .unlocked hresolve (.inr ⟨_, rfl⟩)
    · exact .locking hresolve _

/-- A wait for the lock goes on, is given up, or ends with the lock. -/
lemma stands_await {sent : StopSignal} (hresolve : q.resolve = .ok sent) (i : Inode) (h : Holders) :
    Stands q (await q a i ⟨.locking i,
        [.connects, .addresses, .calls (q.call sent), .answered, .opens], h⟩).stage
      (await q a i ⟨.locking i,
        [.connects, .addresses, .calls (q.call sent), .answered, .opens], h⟩).acts := by
  unfold await
  split
  · split_ifs
    · exact .locking hresolve i
    · exact .unlocked hresolve (.inl rfl)
    · exact .unlocked hresolve (.inr ⟨_, rfl⟩)
  · split_ifs
    · exact .locking hresolve i
    · exact .stopped hresolve i

/-- **Every call of a stop leads from where it stands to where it has done one thing more, or to its
end.** -/
lemma stands_step (hstands : Stands q s.stage s.acts) (a : StopAnswer) :
    Stands q (s.step q a).stage (s.step q a).acts := by
  obtain ⟨stage, acts, h⟩ := s
  dsimp only at hstands
  cases hstands with
  | resolving =>
    simp only [step, resolve]
    split
    · next hresolve => exact .unsuited hresolve
    · next hresolve => exact .connecting hresolve
  | connecting hresolve =>
    simp only [step]
    split_ifs
    · exact .addressing hresolve
    · exact .unconnected
  | addressing hresolve =>
    simp only [step]
    split_ifs
    · exact .sending hresolve
    · exact .unaddressed
  | sending hresolve =>
    simp only [step, send]
    split_ifs
    · exact .unsent
    · exact .answering hresolve
  | answering hresolve =>
    simp only [step]
    split_ifs
    · exact .opening hresolve
    · exact .refused hresolve
  | opening hresolve => exact stands_openLock hresolve h
  | locking hresolve i => exact stands_await hresolve i h
  | unsuited hresolve => exact .unsuited hresolve
  | unconnected => exact .unconnected
  | unaddressed => exact .unaddressed
  | unsent => exact .unsent
  | refused hresolve => exact .refused hresolve
  | unlocked hresolve hfailure => exact .unlocked hresolve hfailure
  | stopped hresolve i => exact .stopped hresolve i

/-- What a stop sends is the request that suits the container, and it is sent once. -/
lemma Stands.calls_cases {stage : StopStage} {acts : List StopAct} (hstands : Stands q stage acts) :
    acts.filterMap StopAct.call? = [] ∨
      ∃ sent, q.resolve = .ok sent ∧ acts.filterMap StopAct.call? = [q.call sent] := by
  cases hstands with
  | resolving | unsuited | connecting | unconnected | addressing | unaddressed | sending | unsent =>
    exact .inl rfl
  | answering hresolve | refused hresolve | opening hresolve | locking hresolve
  | unlocked hresolve | stopped hresolve => exact .inr ⟨_, hresolve, rfl⟩

/-- What a stop does, it does in this order. -/
lemma Stands.acts_isPrefix {stage : StopStage} {acts : List StopAct}
    (hstands : Stands q stage acts) :
    ∃ call i, acts <+: [.connects, .addresses, .calls call, .answered, .opens, .locks i] := by
  cases hstands with
  | resolving | unsuited | connecting => exact ⟨q.call .default, 0, [_, _, _, _, _, _], rfl⟩
  | unconnected | addressing => exact ⟨q.call .default, 0, [_, _, _, _, _], rfl⟩
  | unaddressed | sending | unsent => exact ⟨q.call .default, 0, [_, _, _, _], rfl⟩
  | answering | refused => exact ⟨_, 0, [_, _, _], rfl⟩
  | opening => exact ⟨_, 0, [_, _], rfl⟩
  | locking | unlocked => exact ⟨_, 0, [_], rfl⟩
  | stopped => exact ⟨_, _, [], rfl⟩

/-- A stop is given up before it opens the lock file, as the request does not suit the container or the
bus has failed, or after it was answered, because of the lock. -/
lemma Stands.failed_cases {failure : Failure} {acts : List StopAct}
    (hstands : Stands q (.failed failure) acts) :
    (StopAct.opens ∉ acts ∧ ((∃ signal cause, q.resolve = .error (signal, cause) ∧
        failure = .unsupportedSignal signal q.container.name cause) ∨
      ∃ request, failure = .bus request)) ∨
    (StopAct.answered ∈ acts ∧ q.IsLockFailure failure) := by
  cases hstands with
  | unsuited hresolve => exact .inl ⟨by simp, .inl ⟨_, _, hresolve, rfl⟩⟩
  | unconnected | unaddressed | unsent | refused => exact .inl ⟨by simp, .inr ⟨_, rfl⟩⟩
  | unlocked _ hfailure => exact .inr ⟨by simp, hfailure⟩

/-- A stop that has the lock has done everything. -/
lemma Stands.stopped_acts {i : Inode} {acts : List StopAct} (hstands : Stands q (.stopped i) acts) :
    ∃ call, acts = [.connects, .addresses, .calls call, .answered, .opens, .locks i] := by
  cases hstands with
  | stopped => exact ⟨_, rfl⟩

/-! ### What a call does to the files and the locks -/

/-- A call that leaves everything as it is, and does not lead to the wait for a lock or to the lock. -/
structure Spares (s after : Stopping) : Prop where
  /-- Everything is as it was. -/
  holders_eq : after.holders = s.holders
  /-- What was done is remembered. -/
  acts_isPrefix : s.acts <+: after.acts
  /-- No wait has begun. -/
  of_locking : ∀ i, after.stage = .locking i → s.stage = .locking i
  /-- No wait has come to its end. -/
  of_stopped : ∀ i, after.stage = .stopped i → s.stage = .stopped i

/-- No call spares everything. -/
lemma spares_refl (s : Stopping) : s.Spares s :=
  ⟨rfl, List.prefix_refl _, fun _ => id, fun _ => id⟩

/-- Going on spares everything, unless to the wait for the lock or with the lock. -/
lemma spares_goOn (s : Stopping) {stage : StopStage} (hlocking : ∀ i, stage ≠ .locking i)
    (hstopped : ∀ i, stage ≠ .stopped i) : s.Spares (s.goOn stage) :=
  ⟨rfl, List.prefix_refl _, fun i hi => absurd hi (hlocking i), fun i hi => absurd hi (hstopped i)⟩

/-- So does going on after an act. -/
lemma spares_note (s : Stopping) (act : StopAct) {stage : StopStage}
    (hlocking : ∀ i, stage ≠ .locking i) (hstopped : ∀ i, stage ≠ .stopped i) :
    s.Spares ((s.note act).goOn stage) :=
  ⟨rfl, List.prefix_append _ _, fun i hi => absurd hi (hlocking i),
    fun i hi => absurd hi (hstopped i)⟩

/-- **A call spares everything, or opens the lock file, or takes a lock that is free.** -/
lemma step_cases (q : StopRequest) (s : Stopping) (a : StopAnswer) :
    s.Spares (s.step q a) ∨
      (∃ i space, s.stage = .opening ∧
        s.holders.space.openTarget (.file q.lockFile) = .ok (i, space) ∧
        s.step q a = ⟨.locking i, s.acts ++ [.opens], { s.holders with space := space }⟩) ∨
      ∃ i, s.stage = .locking i ∧ i ∉ s.holders.space.locked ∧ s.step q a = s.keep i := by
  unfold step
  split
  · refine .inl ?_
    unfold resolve
    split
    · exact s.spares_goOn nofun nofun
    · exact s.spares_goOn nofun nofun
  · refine .inl ?_
    split_ifs
    · exact s.spares_note _ nofun nofun
    · exact s.spares_note _ nofun nofun
  · refine .inl ?_
    split_ifs
    · exact s.spares_note _ nofun nofun
    · exact s.spares_note _ nofun nofun
  · refine .inl ?_
    unfold send
    split_ifs
    · exact s.spares_goOn nofun nofun
    · exact s.spares_note _ nofun nofun
  · refine .inl ?_
    split_ifs
    · exact s.spares_note _ nofun nofun
    · exact s.spares_goOn nofun nofun
  · next hstage =>
    unfold openLock
    split
    · exact .inl (s.spares_note _ nofun nofun)
    · split
      · exact .inl (s.spares_note _ nofun nofun)
      · next i space hopen => exact .inr (.inl ⟨i, space, hstage, hopen, rfl⟩)
  · next i hstage =>
    unfold await
    split
    · split_ifs
      · exact .inl (spares_refl s)
      · exact .inl (s.spares_goOn nofun nofun)
      · exact .inl (s.spares_goOn nofun nofun)
    · split_ifs with hlocked
      · exact .inl (spares_refl s)
      · exact .inr (.inr ⟨i, hstage, by simpa using hlocked, rfl⟩)
  · exact .inl (spares_refl s)
  · exact .inl (spares_refl s)

/-- A stop forgets nothing of what it did. -/
lemma acts_step (s : Stopping) (a : StopAnswer) : s.acts <+: (s.step q a).acts := by
  rcases step_cases q s a with hspares | ⟨i, space, -, -, hstep⟩ | ⟨i, -, -, hstep⟩
  · exact hspares.acts_isPrefix
  · rw [hstep]
    exact List.prefix_append _ _
  · rw [hstep]
    exact List.prefix_append _ _

/-- A stop has opened the lock file once it waits for its lock. -/
lemma Stands.opens_mem {i : Inode} {acts : List StopAct} (hstands : Stands q (.locking i) acts) :
    StopAct.opens ∈ acts := by
  cases hstands
  simp

/-- As long as a stop has not opened the lock file, its calls leave everything as it is. -/
lemma holders_step_of_unopened (hstands : Stands q s.stage s.acts)
    (hunopened : StopAct.opens ∉ (s.step q a).acts) :
    StopAct.opens ∉ s.acts ∧ (s.step q a).holders = s.holders := by
  have hbefore : StopAct.opens ∉ s.acts := fun hopens => hunopened ((acts_step s a).subset hopens)
  refine ⟨hbefore, ?_⟩
  rcases step_cases q s a with hspares | ⟨i, space, -, -, hstep⟩ | ⟨i, hstage, -, -⟩
  · exact hspares.holders_eq
  · rw [hstep] at hunopened
    exact absurd (List.mem_append_right _ (List.mem_singleton_self _)) hunopened
  · rw [hstage] at hstands
    exact absurd hstands.opens_mem hbefore

/-! ### Runs -/

/-- A run begins with its first turn. -/
lemma run_cons (q : StopRequest) (s : Stopping) (t : StopTurn) (turns : List StopTurn) :
    s.run q (t :: turns) = (s.turn q t).run q turns := rfl

/-- Turns and then others are one run. -/
lemma run_append (q : StopRequest) (s : Stopping) (turns later : List StopTurn) :
    s.run q (turns ++ later) = (s.run q turns).run q later := List.foldl_append

/-- A run ends with its last turn. -/
lemma run_concat (q : StopRequest) (s : Stopping) (turns : List StopTurn) (t : StopTurn) :
    s.run q (turns ++ [t]) = (s.run q turns).turn q t := run_append q s turns [t]

/-- What holds of a stop at every turn: it has done what belongs to where it stands, what is held is
locked, and the lock that it took is among those that are kept until death. -/
structure IsSound (q : StopRequest) (s : Stopping) : Prop where
  /-- It has done what belongs to where it stands. -/
  stands : Stands q s.stage s.acts
  /-- What is held is locked. -/
  tallied : s.holders.IsTallied []
  /-- The lock is kept. -/
  kept : ∀ i, s.stage = .stopped i → ⟨.run, [i]⟩ ∈ s.holders.untilDeath

/-- A stop that has not begun is sound. -/
lemma isSound_start (q : StopRequest) (files : Filesystem) : (start (.start files)).IsSound q :=
  ⟨.resolving, Holders.isTallied_start files, by simp [start]⟩

/-- A lock that is taken is tallied. -/
lemma isTallied_keep (htally : s.holders.IsTallied []) (i : Inode) :
    (s.keep i).holders.IsTallied [] := by
  have hlocks : (s.keep i).holders.locks.flatMap Held.inodes =
      (s.holders.live.map (·.2) ++ ⟨.run, [i]⟩ :: s.holders.untilDeath).flatMap Held.inodes := rfl
  have hperm : ((s.keep i).holders.locks.flatMap Held.inodes).Subperm
      (i :: s.holders.locks.flatMap Held.inodes) :=
    hlocks ▸ subperm_inodes List.perm_middle.subperm
  exact hperm.trans ((List.subperm_cons i).2 htally)

/-- **Every call keeps a stop sound.** -/
lemma isSound_step (hsound : s.IsSound q) (a : StopAnswer) : (s.step q a).IsSound q := by
  have hstands := stands_step hsound.stands a
  rcases step_cases q s a with hspares | ⟨i, space, -, hopen, hstep⟩ | ⟨i, -, -, hstep⟩
  · refine ⟨hstands, hspares.holders_eq ▸ hsound.tallied, fun j hj => ?_⟩
    rw [hspares.holders_eq]
    exact hsound.kept j (hspares.of_stopped j hj)
  · refine ⟨hstands, ?_, fun j hj => ?_⟩
    · rw [hstep]
      have htally := hsound.tallied
      unfold Holders.IsTallied at htally ⊢
      rwa [← openTarget_locked hopen] at htally
    · rw [hstep] at hj
      cases hj
  · refine ⟨hstands, hstep ▸ isTallied_keep hsound.tallied i, fun j hj => ?_⟩
    rw [hstep] at hj ⊢
    cases hj
    exact List.mem_cons_self

/-- Every turn keeps a stop sound. -/
lemma isSound_turn (hsound : s.IsSound q) (t : StopTurn) : (s.turn q t).IsSound q := by
  cases t with
  | own a => exact isSound_step hsound a
  | other directory event =>
    refine ⟨hsound.stands, Holders.isTallied_step hsound.tallied directory event, fun i hi => ?_⟩
    exact Holders.untilDeath_step s.holders directory event (hsound.kept i hi)

/-- Every run keeps a stop sound. -/
lemma isSound_run (hsound : s.IsSound q) (turns : List StopTurn) : (s.run q turns).IsSound q := by
  induction turns generalizing s with
  | nil => exact hsound
  | cons t turns ih => exact ih (isSound_turn hsound t)

/-- A stop that has the lock does nothing more. -/
lemma stage_run_of_stopped {i : Inode} (hstage : s.stage = .stopped i) (turns : List StopTurn) :
    (s.run q turns).stage = .stopped i := by
  induction turns generalizing s with
  | nil => exact hstage
  | cons t turns ih =>
    refine ih ?_
    cases t with
    | own a => simp only [turn, step, hstage]
    | other directory event => exact hstage

/-- **A stop that has not opened the lock file has left everything to others.** -/
lemma holders_eq_of_unopened (hsound : s.IsSound q) {turns : List StopTurn}
    (hunopened : StopAct.opens ∉ (s.run q turns).acts) :
    (s.run q turns).holders = (s.run q (turns.filter StopTurn.isOther)).holders := by
  induction turns using List.reverseRecOn with
  | nil => rfl
  | append_singleton turns t ih =>
    rw [run_concat] at hunopened ⊢
    cases t with
    | own a =>
      have hfilter : (turns ++ [StopTurn.own a]).filter StopTurn.isOther =
          turns.filter StopTurn.isOther ++ [] := List.filter_append _ _
      obtain ⟨hbefore, hholders⟩ :=
        holders_step_of_unopened (isSound_run hsound turns).stands hunopened
      rw [hfilter, List.append_nil]
      exact hholders.trans (ih hbefore)
    | other directory event =>
      have hfilter : (turns ++ [StopTurn.other directory event]).filter StopTurn.isOther =
          turns.filter StopTurn.isOther ++ [.other directory event] := List.filter_append _ _
      have hsame := ih hunopened
      rw [hfilter, run_concat]
      simp only [turn]
      rw [hsame]

/-! ### The lock that is taken -/

/-- What holds after turns, and not before them, has come to hold with one of them. -/
lemma exists_turn {P : Stopping → Prop} (hbefore : ¬ P s) (hafter : P (s.run q turns)) :
    ∃ past t later, turns = past ++ t :: later ∧ ¬ P (s.run q past) ∧
      P ((s.run q past).turn q t) := by
  induction turns using List.reverseRecOn with
  | nil => exact absurd hafter hbefore
  | append_singleton turns t ih =>
    by_cases hlast : P (s.run q turns)
    · obtain ⟨past, t', later, rfl, hpast⟩ := ih hlast
      exact ⟨past, t', later ++ [t], by simp, hpast⟩
    · rw [run_concat] at hafter
      exact ⟨turns, t, [], rfl, hlast, hafter⟩

/-- A stop that has a lock waited for it when it was free. -/
lemma exists_locking {i : Inode} (hstage : ((start h).run q turns).stage = .stopped i) :
    ∃ past a later, turns = past ++ .own a :: later ∧
      ((start h).run q past).stage = .locking i ∧
      i ∉ ((start h).run q past).holders.space.locked := by
  obtain ⟨past, t, later, hturns, hbefore, hafter⟩ :=
    exists_turn (P := fun s => s.stage = .stopped i) (by simp [start]) hstage
  cases t with
  | other directory event => exact absurd hafter hbefore
  | own a =>
    refine ⟨past, a, later, hturns, ?_⟩
    rcases step_cases q ((start h).run q past) a with hspares | ⟨j, space, -, -, hstep⟩ |
      ⟨j, hlocking, hfree, hstep⟩
    · exact absurd (hspares.of_stopped i hafter) hbefore
    · rw [turn, hstep] at hafter
      cases hafter
    · rw [turn, hstep] at hafter
      cases hafter
      exact ⟨hlocking, hfree⟩

/-- A stop that waits for a lock has opened its file. -/
lemma exists_opening {i : Inode} (hstage : ((start h).run q turns).stage = .locking i) :
    ∃ past a later, turns = past ++ .own a :: later ∧
      ((start h).run q past).stage = .opening ∧
      ∃ space, ((start h).run q past).holders.space.openTarget (.file q.lockFile) = .ok (i, space) := by
  obtain ⟨past, t, later, hturns, hbefore, hafter⟩ :=
    exists_turn (P := fun s => s.stage = .locking i) (by simp [start]) hstage
  cases t with
  | other directory event => exact absurd hafter hbefore
  | own a =>
    refine ⟨past, a, later, hturns, ?_⟩
    rcases step_cases q ((start h).run q past) a with hspares | ⟨j, space, hopening, hopen, hstep⟩ |
      ⟨j, -, -, hstep⟩
    · exact absurd (hspares.of_locking i hafter) hbefore
    · rw [turn, hstep] at hafter
      cases hafter
      exact ⟨hopening, space, hopen⟩
    · rw [turn, hstep] at hafter
      cases hafter

/-! ### Where nobody but the supervisor acts -/

/-- What a host makes of the calls of a stop, if nothing but its bus is in the way. -/
def answerOf (r : Registry) : StopAnswer := ⟨!r.isDown, true, true, !r.refusesKill, none, none⟩

/-- Whether the request reaches the bus of a host. -/
def reaches (q : StopRequest) (r : Registry) : Bool :=
  q.resolve.isOk && !r.isDown && !q.machine.contains Bytes.nul

/-- The turns of a stop on a host on which the supervisor lets its lock go when the request arrives, and
nobody else acts. -/
def turnsOf (q : StopRequest) (r : Registry) (supervisor : Bytes) : List StopTurn :=
  let own := StopTurn.own (answerOf r)
  if reaches q r then
    [own, own, own, own] ++ .other q.container.path (.release supervisor) :: [own, own, own]
  else [own, own, own, own]

/-- What a stop has come to. -/
def result (s : Stopping) : StopResult where
  outcome :=
    match s.stage with
    | .stopped i => .stopped [i]
    | .failed failure => .failed failure
    | _ => .waiting
  calls := s.calls
  space := s.holders.space

/-- The first calls send the request, if nothing is in the way. -/
lemma run_sending {sent : StopSignal} (hresolve : q.resolve = .ok sent)
    (hnul : Bytes.nul ∉ q.machine) (hconnects : a.connects = true) (haddresses : a.addresses = true)
    (hsends : a.sends = true) (h : Holders) :
    (start h).run q [.own a, .own a, .own a, .own a] =
      ⟨.answering, [.connects, .addresses, .calls (q.call sent)], h⟩ := by
  have hfirst : (start h).step q a = ⟨.connecting sent, [], h⟩ := by
    simp only [start, step, resolve, hresolve, goOn]
  have hsecond : step q a ⟨.connecting sent, [], h⟩ = ⟨.addressing sent, [.connects], h⟩ := by
    simp only [step, hconnects, if_true]
    rfl
  have hthird : step q a ⟨.addressing sent, [.connects], h⟩ =
      ⟨.sending sent, [.connects, .addresses], h⟩ := by
    simp only [step, haddresses, if_true]
    rfl
  have hfourth : step q a ⟨.sending sent, [.connects, .addresses], h⟩ =
      ⟨.answering, [.connects, .addresses, .calls (q.call sent)], h⟩ := by
    simp [step, send, hnul, hsends, note, goOn]
  simp only [run, List.foldl_cons, List.foldl_nil, turn, hfirst, hsecond, hthird, hfourth]

/-- The run lock has one file. -/
lemma acquire_run (q : StopRequest) (space : Space) :
    acquire space q.container.path .run true =
      match space.openTarget (.file q.lockFile) with
      | .error fault => (.failed (.lock q.lockFile (fault.errno?.getD .ioError)), space)
      | .ok (i, opened) =>
        if opened.locked.contains i then (.waiting [] i [], opened)
        else (.acquired [i], opened.lock i) :=
  rfl

/-- The last calls of a stop take the run lock, for a caller that waits. -/
lemma result_run_locking (hopen : a.openFault = none) (hwait : a.waitFault = none)
    (acts : List StopAct) (h : Holders) :
    (run q ⟨.opening, acts, h⟩ [.own a, .own a]).result =
      match acquire h.space q.container.path .run true with
      | (.acquired held, space) => ⟨.stopped held, acts.filterMap StopAct.call?, space⟩
      | (.failed failure, space) => ⟨.failed failure, acts.filterMap StopAct.call?, space⟩
      | (.waiting _ _ _, space) => ⟨.waiting, acts.filterMap StopAct.call?, space⟩ := by
  have hcalls : (acts ++ [StopAct.opens]).filterMap StopAct.call? = acts.filterMap StopAct.call? :=
    (List.filterMap_append ..).trans (List.append_nil _)
  rw [acquire_run]
  simp only [run, List.foldl_cons, List.foldl_nil, turn]
  rcases htarget : h.space.openTarget (.file q.lockFile) with fault | ⟨i, opened⟩
  · have hfirst : step q a ⟨.opening, acts, h⟩ =
        ⟨.failed (.lock q.lockFile (fault.errno?.getD .ioError)), acts ++ [.opens], h⟩ := by
      simp only [step, openLock, note, hopen, htarget, fail, goOn]
    rw [hfirst]
    simp only [step, result, calls, hcalls]
  · have hfirst : step q a ⟨.opening, acts, h⟩ =
        ⟨.locking i, acts ++ [.opens], { h with space := opened }⟩ := by
      simp only [step, openLock, note, hopen, htarget]
    rw [hfirst]
    simp only [step, await, hwait]
    split_ifs with hlocked
    · simp only [result, calls, hcalls]
    · have hkept : (acts ++ [StopAct.opens] ++ [StopAct.locks i]).filterMap StopAct.call? =
          acts.filterMap StopAct.call? := by
        rw [List.filterMap_append, hcalls]
        exact List.append_nil _
      simp only [result, calls, keep, hkept]

/-- What comes of a request that reached the bus, if nothing but the bus is in the way of the lock. -/
def resultOf (q : StopRequest) (r : Registry) (sent : StopSignal) (space : Space) : StopResult :=
  if r.refusesKill then ⟨.failed (.bus (.killMachine q.machine)), [q.call sent], space⟩
  else
    match acquire space q.container.path .run true with
    | (.acquired held, space) => ⟨.stopped held, [q.call sent], space⟩
    | (.failed failure, space) => ⟨.failed failure, [q.call sent], space⟩
    | (.waiting _ _ _, space) => ⟨.waiting, [q.call sent], space⟩

/-- Three more calls lead to that result. -/
lemma result_run_answering (r : Registry) (sent : StopSignal) (h : Holders) :
    (run q ⟨.answering, [.connects, .addresses, .calls (q.call sent)], h⟩
        [.own (answerOf r), .own (answerOf r), .own (answerOf r)]).result =
      resultOf q r sent h.space := by
  unfold resultOf
  cases hrefuses : r.refusesKill with
  | true =>
    have hfirst : step q (answerOf r)
        ⟨.answering, [.connects, .addresses, .calls (q.call sent)], h⟩ =
        ⟨.failed (.bus (.killMachine q.machine)), [.connects, .addresses, .calls (q.call sent)],
          h⟩ := by
      simp [step, answerOf, hrefuses, fail, goOn]
    simp only [run, List.foldl_cons, List.foldl_nil, turn, hfirst]
    rfl
  | false =>
    have hfirst : step q (answerOf r)
        ⟨.answering, [.connects, .addresses, .calls (q.call sent)], h⟩ =
        ⟨.opening, [.connects, .addresses, .calls (q.call sent), .answered], h⟩ := by
      simp [step, answerOf, hrefuses, note, goOn]
    have hrun : run q ⟨.answering, [.connects, .addresses, .calls (q.call sent)], h⟩
        [.own (answerOf r), .own (answerOf r), .own (answerOf r)] =
        run q ⟨.opening, [.connects, .addresses, .calls (q.call sent), .answered], h⟩
          [.own (answerOf r), .own (answerOf r)] := by
      simp only [run, List.foldl_cons, List.foldl_nil, turn, hfirst]
    rw [hrun, result_run_locking rfl rfl]
    rfl

/-- A stop in one go has that result, after the supervisor has let its lock go. -/
lemma stop_of_sent {r : Registry} {sent : StopSignal} (hresolve : q.resolve = .ok sent)
    (hdown : r.isDown = false) (hnul : q.machine.contains Bytes.nul = false) (space : Space)
    (inodes : List Inode) :
    stop r space inodes q.container q.user q.signal q.everyProcess =
      resultOf q r sent (space.free inodes) := by
  have hresolve' : q.signal.resolve q.container.config.boot q.everyProcess = .ok sent := hresolve
  have hkill : r.kill (q.container.machineName q.user) (stopScope q.everyProcess) sent.number =
      (if r.refusesKill then .error (.bus (.killMachine q.machine)) else .ok (),
        [q.call sent]) := by
    have hmachine : (q.container.machineName q.user).contains Bytes.nul = false := hnul
    rw [Registry.kill, hdown, hmachine]
    rfl
  have hany : [q.call sent].any BusCall.isKill = true := rfl
  unfold stop resultOf
  simp only [hresolve', hkill, hany, if_true]
  cases r.refusesKill <;> rfl

/-- The turns of a stop whose request reaches the bus. -/
lemma turnsOf_of_sent {r : Registry} {sent : StopSignal} (hresolve : q.resolve = .ok sent)
    (hdown : r.isDown = false) (hnul : q.machine.contains Bytes.nul = false) (supervisor : Bytes) :
    turnsOf q r supervisor =
      [StopTurn.own (answerOf r), .own (answerOf r), .own (answerOf r), .own (answerOf r)] ++
        StopTurn.other q.container.path (.release supervisor) ::
          [StopTurn.own (answerOf r), .own (answerOf r), .own (answerOf r)] := by
  have hreaches : reaches q r = true := by
    rw [reaches, hresolve, hdown, hnul]
    rfl
  rw [turnsOf, if_pos hreaches]

/-- **A stop in one go is a stop call by call**, with these turns. -/
lemma result_run_turnsOf (q : StopRequest) (r : Registry) (space : Space) (supervisor : Bytes)
    (inodes : List Inode) :
    ((start ⟨space, [(supervisor, ⟨.run, inodes⟩)], []⟩).run q (turnsOf q r supervisor)).result =
      stop r space inodes q.container q.user q.signal q.everyProcess := by
  have hresolve : q.signal.resolve q.container.config.boot q.everyProcess = q.resolve := rfl
  have hmachine : q.container.machineName q.user = q.machine := rfl
  -- A request that does not reach the bus has four calls at most, which can be made here.
  rcases hq : q.resolve with ⟨signal, cause⟩ | sent
  · simp [turnsOf, reaches, run, turn, step, start, resolve, hq, fail, goOn, result, calls,
      Except.isOk, Except.toBool, stop, hresolve]
  cases hdown : r.isDown with
  | true =>
    simp [turnsOf, reaches, run, turn, step, start, resolve, hq, fail, goOn, note, result, calls,
      answerOf, hdown, Registry.kill, StopAct.call?, stop, hresolve]
  | false =>
    by_cases hnul : Bytes.nul ∈ q.machine
    · simp [turnsOf, reaches, run, turn, step, start, resolve, hq, fail, goOn, note, send, result,
        calls, answerOf, hdown, hnul, Registry.kill, StopAct.call?, stop, hresolve, hmachine]
    have hcontains : q.machine.contains Bytes.nul = false := by simpa using hnul
    have hsent := run_sending (a := answerOf r) hq hnul (by simp [answerOf, hdown]) rfl rfl
      ⟨space, [(supervisor, ⟨.run, inodes⟩)], []⟩
    have hfreed : (Holders.step q.container.path ⟨space, [(supervisor, ⟨.run, inodes⟩)], []⟩
        (.release supervisor)).2.space = space.free inodes := by
      simp [Holders.step, Holders.letGo]
    rw [stop_of_sent hq hdown hcontains, turnsOf_of_sent hq hdown hcontains, run_append, hsent,
      run_cons, turn, result_run_answering, hfreed]

end Stopping

open Stopping

/-- A stop after turns, on a container of which nobody held a lock at first. -/
def StopRequest.after (q : StopRequest) (files : Filesystem) (turns : List StopTurn) : Stopping :=
  (start (.start files)).run q turns

/-- **A stop does one thing after another, and leaves no trace of what it gave up.**  Whatever the bus
and the system answer, and whatever others do between its calls:

* at most one request reaches the bus, it names the user's container's machine, and its signal and its
  scope suit the container;
* the lock file is opened only after the bus has said that the machine was signalled, and a stop that
  is given up before has left the files and the locks as others alone have made them;
* a stop succeeds only with a lock on what the path of the run lock led to, which was free; and this
  lock is held from then on.

On a host on which nobody acts but the supervisor, this is what `stop` does. -/
theorem stops_in_order (q : StopRequest) (files : Filesystem) (turns : List StopTurn) :
    ((q.after files turns).calls.length ≤ 1 ∧ ∀ call ∈ (q.after files turns).calls,
      ∃ sent, q.signal.resolve q.container.config.boot q.everyProcess = .ok sent ∧ q.Suits sent ∧
        sent.number ≠ 0 ∧ call = .killMachine (q.container.machineName q.user)
          (if q.everyProcess then .everyProcess else .leader) sent.number) ∧
    (∃ call i, (q.after files turns).acts <+:
      [.connects, .addresses, .calls call, .answered, .opens, .locks i]) ∧
    (∀ failure, (q.after files turns).stage = .failed failure →
      (StopAct.opens ∉ (q.after files turns).acts ∧
          ((∃ signal cause, q.resolve = .error (signal, cause) ∧
            failure = .unsupportedSignal signal q.container.name cause) ∨
          ∃ request, failure = .bus request)) ∨
        (StopAct.answered ∈ (q.after files turns).acts ∧ q.IsLockFailure failure)) ∧
    (StopAct.opens ∉ (q.after files turns).acts →
      (q.after files turns).holders = (q.after files (turns.filter StopTurn.isOther)).holders) ∧
    (∀ i, (q.after files turns).stage = .stopped i →
      (∃ call, (q.after files turns).acts =
        [.connects, .addresses, .calls call, .answered, .opens, .locks i]) ∧
      (∃ past a wait b rest, turns = past ++ .own a :: (wait ++ .own b :: rest) ∧
        (∃ space, (q.after files past).holders.space.openTarget (.file q.lockFile) =
          .ok (i, space)) ∧
        i ∉ (q.after files (past ++ .own a :: wait)).holders.space.locked) ∧
      ∀ later, (q.after files (turns ++ later)).stage = .stopped i ∧
        ⟨.run, [i]⟩ ∈ (q.after files (turns ++ later)).holders.untilDeath ∧
        i ∈ (q.after files (turns ++ later)).holders.space.locked) ∧
    ∀ r space supervisor inodes,
      ((start ⟨space, [(supervisor, ⟨.run, inodes⟩)], []⟩).run q (turnsOf q r supervisor)).result =
        stop r space inodes q.container q.user q.signal q.everyProcess := by
  have hsound : ∀ turns, (q.after files turns).IsSound q := isSound_run (isSound_start q files)
  have hstands := (hsound turns).stands
  refine ⟨⟨?_, fun call hcall => ?_⟩, hstands.acts_isPrefix, fun failure hstage => ?_,
    fun hunopened => holders_eq_of_unopened (isSound_start q files) hunopened,
    fun i hstage => ⟨?_, ?_, fun later => ?_⟩, result_run_turnsOf q⟩
  · rcases hstands.calls_cases with hnone | ⟨sent, -, hone⟩
    · simp [calls, hnone]
    · simp [calls, hone]
  · rcases hstands.calls_cases with hnone | ⟨sent, hresolve, hone⟩
    · rw [calls, hnone] at hcall
      cases hcall
    · rw [calls, hone, List.mem_singleton] at hcall
      have hsuits := StopRequest.suits_of_resolve hresolve
      exact ⟨sent, hresolve, hsuits, hsuits.number_ne_zero, hcall⟩
  · rw [hstage] at hstands
    exact hstands.failed_cases
  · rw [hstage] at hstands
    exact hstands.stopped_acts
  · obtain ⟨past, b, rest, rfl, hlocking, hfree⟩ := exists_locking hstage
    obtain ⟨first, a, wait, rfl, -, hopen⟩ := exists_opening hlocking
    exact ⟨first, a, wait, b, rest, by simp, hopen, hfree⟩
  · have hlater : (q.after files (turns ++ later)).stage = .stopped i := by
      rw [StopRequest.after, run_append]
      exact stage_run_of_stopped hstage later
    have hkept := (hsound (turns ++ later)).kept i hlater
    exact ⟨hlater, hkept, (hsound (turns ++ later)).tallied.mem_locked hkept
      (List.mem_singleton_self i)⟩

/-- A container that somebody runs. -/
def runningContainer : StopRequest := ⟨⟨"dev", "/dev", ⟨false⟩⟩, "alice", .default, false⟩

-- The supervisor has the run lock, and lets it go while the stop waits for it.
example :
    let own := StopTurn.own ⟨true, true, true, true, none, none⟩
    let stop := runningContainer.after ⟨#[.directory 0 [("dev", 1)], .directory 0 []], 0⟩
      [.other "/dev" (.acquire .run "supervisor" true), own, own, own, own, own, own, own,
        .other "/dev" (.release "supervisor"), own]
    stop.stage = .stopped 2 ∧ stop.calls = [.killMachine "porthole-alice-dev" .leader 15] := by
  decide

end ContainerEntry
