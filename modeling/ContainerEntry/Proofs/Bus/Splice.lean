import Mathlib
import ContainerEntry.Bus.Splice

/-!
# A splice is a faithful pipe

Two pumps share two sockets, and every interleaving of their calls with what the peers do is a list
of steps.

* **Nothing is lost on a leg** (`Leg.IsSound`): what a peer has sent is what the other one has
  received, then what the pump holds, then what was not read; and which sockets are shut can be told
  from where the two pumps stand.  A step in one direction keeps this on its own leg
  (`Leg.IsSound.takes`) and on the other, which has the same sockets the other way around
  (`Leg.IsSound.across`).
* **The pumps come to rest** (`work_step?`): a call of a pump uses up work, and only what a peer
  sends makes more of it.  A splice whose pumps are at rest waits for its peers or is over
  (`isQuiet_iff`).

`splice_is_pipe` puts them together, and `exchange_is_complete` says what comes of an exchange.
-/

namespace ContainerEntry.Bus

/-! ### Directions -/

namespace Direction

@[simp]
lemma flip_flip (d : Direction) : d.flip.flip = d := by
  cases d <;> rfl

/-- There are two directions. -/
lemma eq_or_eq_flip (d e : Direction) : e = d ∨ e = d.flip := by
  cases d <;> cases e <;> decide

end Direction

namespace Splice

variable {s s' : Splice} {d : Direction}

/-- The leg that is set. -/
@[simp]
lemma leg_setLeg (s : Splice) (d : Direction) (l : Leg) : (s.setLeg d l).leg d = l := by
  cases d <;> rfl

/-- The other leg has the sockets the other way around. -/
@[simp]
lemma leg_setLeg_flip (s : Splice) (d : Direction) (l : Leg) :
    (s.setLeg d l).leg d.flip = ⟨l.target, l.source, (s.leg d.flip).pump⟩ := by
  cases d <;> rfl

/-- The other leg has the sockets the other way around. -/
lemma leg_flip (s : Splice) (d : Direction) :
    s.leg d.flip = ⟨(s.leg d).target, (s.leg d).source, (s.leg d.flip).pump⟩ := by
  cases d <;> rfl

end Splice

/-! ### What a step does -/

/-- A leg takes a step, and so it is afterwards. -/
inductive Leg.Takes (l : Leg) : SpliceStep → Leg → Prop where
  /-- The peer sends to somebody who is going to read. -/
  | send {bytes} (hopen : l.source.isClosed = false) :
    Takes l (.send bytes) { l with source := l.source.send bytes }
  /-- The peer ends its sending. -/
  | endSending : Takes l .endSending { l with source := { l.source with ended := true } }
  /-- The pump reads something. -/
  | read {most} (hreading : l.isReading = true) (hunread : l.source.unread ≠ [])
    (hmost : most ≠ 0) : Takes l (.read most) (l.read most)
  /-- The pump writes something. -/
  | write {most} (hwriting : l.isWriting = true) (hmost : most ≠ 0)
    (hopen : l.target.writeShut = false) : Takes l (.write most) (l.write most)
  /-- What the pump writes is refused. -/
  | refused {most} (hwriting : l.isWriting = true) (hshut : l.target.writeShut = true) :
    Takes l (.write most) (l.enter (.tearing (.os .brokenPipe)))
  /-- The pump sees the end. -/
  | seeEnd (hreading : l.isReading = true) (hdry : l.source.isDry = true) :
    Takes l .seeEnd (l.enter .ending)
  /-- A call fails. -/
  | fail {fault} (hcopying : l.pump.phase = .copying) :
    Takes l (.fail fault) (l.enter (.tearing fault))
  /-- The pump shuts its target for writing. -/
  | finish (hending : l.pump.phase = .ending) :
    Takes l .shut { l.enter .finished with target := { l.target with writeShut := true } }
  /-- The pump shuts its source, since a call has failed. -/
  | shutSource {fault} (htearing : l.pump.phase = .tearing fault) :
    Takes l .shut { l.enter (.closing fault) with source := l.source.shut }
  /-- The pump shuts its target, since a call has failed. -/
  | shutTarget {fault} (hclosing : l.pump.phase = .closing fault) :
    Takes l .shut { l.enter (.failed fault) with target := l.target.shut }

namespace Leg

variable {l l' : Leg} {step : SpliceStep}

/-- Whatever a step makes of a leg, the leg takes it. -/
lemma takes_of_step? (h : l.step? step = some l') : l.Takes step l' := by
  cases step with
  | send bytes =>
    rw [step?, Option.ite_none_left_eq_some, Option.some.injEq] at h
    obtain ⟨hopen, rfl⟩ := h
    exact .send (Bool.eq_false_of_not_eq_true hopen)
  | endSending =>
    rw [step?, Option.ite_none_left_eq_some, Option.some.injEq] at h
    obtain ⟨-, rfl⟩ := h
    exact .endSending
  | read most =>
    rw [step?, Option.ite_none_right_eq_some, Option.some.injEq] at h
    obtain ⟨hcan, rfl⟩ := h
    simp only [Bool.and_eq_true, Bool.not_eq_true', List.isEmpty_eq_false_iff, bne_iff_ne] at hcan
    exact .read hcan.1.1 hcan.1.2 hcan.2
  | write most =>
    rw [step?, Option.ite_none_right_eq_some, Option.some.injEq] at h
    obtain ⟨hcan, rfl⟩ := h
    simp only [Bool.and_eq_true, bne_iff_ne] at hcan
    split_ifs with hshut
    · exact .refused hcan.1 hshut
    · exact .write hcan.1 hcan.2 (Bool.eq_false_of_not_eq_true hshut)
  | seeEnd =>
    rw [step?, Option.ite_none_right_eq_some, Option.some.injEq] at h
    obtain ⟨hcan, rfl⟩ := h
    rw [Bool.and_eq_true] at hcan
    exact .seeEnd hcan.1 hcan.2
  | shut =>
    rw [step?, shut?] at h
    split at h
    · next hending => cases h; exact .finish hending
    · next htearing => cases h; exact .shutSource htearing
    · next hclosing => cases h; exact .shutTarget hclosing
    · cases h
    · cases h
    · cases h
  | fail fault =>
    rw [step?, Option.ite_none_right_eq_some, Option.some.injEq] at h
    obtain ⟨hcan, rfl⟩ := h
    rw [Bool.and_eq_true, decide_eq_true_eq] at hcan
    exact .fail hcan.1

end Leg

/-! ### What a leg carries -/

namespace Phase

/-- Whether a pump that stands here has shut its source. -/
def hasShutSource : Phase → Bool
  | .closing _ | .failed _ => true
  | .copying | .ending | .finished | .tearing _ => false

/-- Whether a pump that stands here has shut its target in both directions. -/
def hasShutTarget : Phase → Bool
  | .failed _ => true
  | .copying | .ending | .finished | .tearing _ | .closing _ => false

/-- Whether a pump that stands here has shut its target for writing. -/
def hasEndedTarget : Phase → Bool
  | .finished | .failed _ => true
  | .copying | .ending | .tearing _ | .closing _ => false

/-- Whether a pump that stands here has seen the end of its source. -/
def hasSeenEnd : Phase → Bool
  | .ending | .finished => true
  | .copying | .tearing _ | .closing _ | .failed _ => false

variable {p : Phase}

/-- Only a pump that has failed shuts its source. -/
lemma hasShutSource_eq_false (h : p.fault? = none) : p.hasShutSource = false := by
  cases p with
  | copying | ending | finished | tearing => rfl
  | closing | failed => cases h

/-- Only a pump that has failed shuts its target in both directions. -/
lemma hasShutTarget_eq_false (h : p.fault? = none) : p.hasShutTarget = false := by
  cases p with
  | copying | ending | finished | tearing | closing => rfl
  | failed => cases h

/-- A pump that has ended its target without a failure has finished. -/
lemma eq_finished_of_hasEndedTarget (h : p.hasEndedTarget = true) (hfault : p.fault? = none) :
    p = .finished := by
  cases p with
  | finished => rfl
  | copying | ending | tearing | closing => cases h
  | failed => cases hfault

/-- A pump that is over without a failure has finished. -/
lemma eq_finished_of_isOver (h : p.isOver = true) (hfault : p.fault? = none) : p = .finished := by
  cases p with
  | finished => rfl
  | copying | ending | tearing | closing => cases h
  | failed => cases hfault

end Phase

/-- A leg has lost nothing, and its source is shut as far as its pump and the other one, which stands
there, have shut it. -/
structure Leg.IsSound (l : Leg) (other : Phase) : Prop where
  /-- What was sent was received, or the pump holds it, or it is still to be read. -/
  conserved : l.source.sent = l.target.received ++ (l.pump.pending ++ l.source.unread)
  /-- A pump that has seen the end has carried everything. -/
  drained : l.pump.phase.hasSeenEnd = true → l.pump.pending = [] ∧ l.source.isDry = true
  /-- The source is shut for reading by a pump that failed. -/
  readShut_eq : l.source.readShut = (l.pump.phase.hasShutSource || other.hasShutTarget)
  /-- The source is shut for writing by a pump that failed, or by the other one behind its end. -/
  writeShut_eq : l.source.writeShut = (l.pump.phase.hasShutSource || other.hasEndedTarget)

namespace Leg

variable {l l' : Leg} {step : SpliceStep} {other : Phase}

/-- A pump that reads has not seen the end and has nothing to write. -/
lemma isReading_iff : l.isReading = true ↔ l.pump.phase = .copying ∧ l.pump.pending = [] := by
  simp [isReading]

/-- A pump that writes has something to write. -/
lemma isWriting_iff : l.isWriting = true ↔ l.pump.phase = .copying ∧ l.pump.pending ≠ [] := by
  simp [isWriting]

/-- A leg is sound whatever else has become of its target. -/
lemma IsSound.withTarget (h : l.IsSound other) {target : Connection}
    (hreceived : target.received = l.target.received) :
    IsSound { l with target := target } other where
  conserved := by rw [hreceived]; exact h.conserved
  drained := h.drained
  readShut_eq := h.readShut_eq
  writeShut_eq := h.writeShut_eq

/-- A leg is sound with its pump somewhere else, if the pump has shut nothing on the way. -/
lemma IsSound.enter (h : l.IsSound other) {phase : Phase}
    (hshut : phase.hasShutSource = l.pump.phase.hasShutSource)
    (hseen : phase.hasSeenEnd = true → l.pump.pending = [] ∧ l.source.isDry = true) :
    (l.enter phase).IsSound other where
  conserved := h.conserved
  drained := hseen
  readShut_eq := h.readShut_eq.trans (by rw [← hshut]; rfl)
  writeShut_eq := h.writeShut_eq.trans (by rw [← hshut]; rfl)

/-- A leg is sound when its pump's copy fails. -/
lemma IsSound.tear (h : l.IsSound other) (hcopying : l.pump.phase = .copying) (fault : Fault) :
    (l.enter (.tearing fault)).IsSound other := by
  apply h.enter
  · rw [hcopying]
    rfl
  · rintro ⟨⟩

/-- A leg is sound with the other pump somewhere else, if that has shut nothing on the way. -/
lemma IsSound.ofOther (h : l.IsSound other) {other' : Phase}
    (hshut : other'.hasShutTarget = other.hasShutTarget)
    (hended : other'.hasEndedTarget = other.hasEndedTarget) : l.IsSound other' where
  conserved := h.conserved
  drained := h.drained
  readShut_eq := by rw [hshut]; exact h.readShut_eq
  writeShut_eq := by rw [hended]; exact h.writeShut_eq

/-- **A step keeps its leg sound.** -/
lemma IsSound.takes (h : l.IsSound other) (hstep : l.Takes step l') : l'.IsSound other := by
  cases hstep with
  | send hopen =>
    refine ⟨?_, fun hseen => ?_, h.readShut_eq, h.writeShut_eq⟩
    · show l.source.sent ++ _ = l.target.received ++ (l.pump.pending ++ (l.source.unread ++ _))
      rw [h.conserved, List.append_assoc, List.append_assoc]
    · -- a pump that has seen the end has a source that takes nothing more
      obtain ⟨-, hdry⟩ := h.drained hseen
      rw [Connection.isDry, hopen] at hdry
      cases hdry
  | endSending =>
    refine ⟨h.conserved, fun hseen => ?_, h.readShut_eq, h.writeShut_eq⟩
    obtain ⟨hpending, hdry⟩ := h.drained hseen
    rw [Connection.isDry, Bool.and_eq_true] at hdry
    exact ⟨hpending, hdry.2⟩
  | read hreading hunread hmost =>
    obtain ⟨hphase, hpending⟩ := isReading_iff.1 hreading
    have hread := h.readShut_eq
    have hwrite := h.writeShut_eq
    rw [hphase] at hread hwrite
    refine ⟨?_, by rintro ⟨⟩, hread, hwrite⟩
    show l.source.sent = l.target.received ++ (l.source.unread.take _ ++ l.source.unread.drop _)
    rw [h.conserved, hpending, List.take_append_drop, List.nil_append]
  | write hwriting hmost hopen =>
    obtain ⟨hphase, -⟩ := isWriting_iff.1 hwriting
    have hread := h.readShut_eq
    have hwrite := h.writeShut_eq
    rw [hphase] at hread hwrite
    refine ⟨?_, by rintro ⟨⟩, hread, hwrite⟩
    show l.source.sent = (l.target.received ++ l.pump.pending.take _) ++
      (l.pump.pending.drop _ ++ l.source.unread)
    rw [h.conserved, List.append_assoc, ← List.append_assoc (l.pump.pending.take _),
      List.take_append_drop]
  | refused hwriting => exact h.tear (isWriting_iff.1 hwriting).1 _
  | seeEnd hreading hdry =>
    obtain ⟨hphase, hpending⟩ := isReading_iff.1 hreading
    apply h.enter
    · rw [hphase]
      rfl
    · exact fun _ => ⟨hpending, hdry⟩
  | fail hcopying => exact h.tear hcopying _
  | finish hending =>
    have hentered : (l.enter .finished).IsSound other := by
      apply h.enter
      · rw [hending]
        rfl
      · exact fun _ => h.drained (by rw [hending]; rfl)
    exact hentered.withTarget rfl
  | shutSource htearing => exact ⟨h.conserved, by rintro ⟨⟩, rfl, rfl⟩
  | @shutTarget fault hclosing =>
    have hentered : (l.enter (.failed fault)).IsSound other := by
      apply h.enter
      · rw [hclosing]
        rfl
      · rintro ⟨⟩
    exact hentered.withTarget rfl

/-- **A step keeps the other leg sound**, which has the same sockets the other way around. -/
lemma IsSound.across {p : Pump} (h : IsSound ⟨l.target, l.source, p⟩ l.pump.phase)
    (hstep : l.Takes step l') : IsSound ⟨l'.target, l'.source, p⟩ l'.pump.phase := by
  cases hstep with
  | send | endSending => exact h.withTarget rfl
  | read hreading =>
    rw [(isReading_iff.1 hreading).1] at h
    exact h.withTarget rfl
  | write hwriting hmost hopen =>
    rw [(isWriting_iff.1 hwriting).1] at h
    exact ⟨h.conserved, h.drained, h.readShut_eq, h.writeShut_eq⟩
  | refused hwriting =>
    rw [(isWriting_iff.1 hwriting).1] at h
    exact h.ofOther rfl rfl
  | seeEnd hreading =>
    rw [(isReading_iff.1 hreading).1] at h
    exact h.ofOther rfl rfl
  | fail hcopying =>
    rw [hcopying] at h
    exact h.ofOther rfl rfl
  | finish hending =>
    rw [hending] at h
    exact ⟨h.conserved, h.drained, h.readShut_eq, (Bool.or_true _).symm⟩
  | shutSource htearing =>
    rw [htearing] at h
    exact ⟨h.conserved, h.drained, h.readShut_eq, h.writeShut_eq⟩
  | shutTarget hclosing =>
    refine ⟨h.conserved, fun hseen => ?_, (Bool.or_true _).symm, (Bool.or_true _).symm⟩
    obtain ⟨hpending, hdry⟩ := h.drained hseen
    rw [Connection.isDry, Bool.and_eq_true] at hdry
    refine ⟨hpending, ?_⟩
    show ((l.target.ended || true) && l.target.unread.isEmpty) = true
    rw [Bool.or_true]
    exact hdry.2

end Leg

/-! ### Work -/

/-- How many calls a pump that stands here still makes when there is nothing to carry. -/
def Phase.callsLeft : Phase → Nat
  | .copying => 3
  | .tearing _ => 2
  | .ending | .closing _ => 1
  | .finished | .failed _ => 0

namespace Leg

variable {l l' : Leg} {step : SpliceStep}

/-- How many calls a pump makes at most before it has to wait: one for each byte that it reads, one
for each byte that it writes, and those behind the copy. -/
def work (l : Leg) : Nat :=
  2 * l.source.unread.length + l.pump.pending.length + l.pump.phase.callsLeft

/-- How many calls of a pump a step is. -/
def calls (step : SpliceStep) : Nat := if step.isPumps then 1 else 0

/-- **A call uses up work, and only what a peer sends makes more of it.** -/
lemma Takes.work_le (h : l.Takes step l') :
    l'.work + calls step + 2 * l.source.sent.length ≤ l.work + 2 * l'.source.sent.length := by
  cases h with
  | send hopen =>
    simp only [work, calls, SpliceStep.isPumps, Connection.send, List.length_append,
      Bool.false_eq_true, if_false]
    omega
  | endSending => exact le_refl _
  | @read most hreading hunread hmost =>
    obtain ⟨hphase, hpending⟩ := isReading_iff.1 hreading
    have hlength : 0 < l.source.unread.length := List.length_pos_iff.2 hunread
    simp only [work, calls, SpliceStep.isPumps, Leg.read, hphase, hpending, List.length_take,
      List.length_drop, List.length_nil, if_true]
    omega
  | write hwriting hmost hopen =>
    obtain ⟨hphase, hpending⟩ := isWriting_iff.1 hwriting
    have hlength : 0 < l.pump.pending.length := List.length_pos_iff.2 hpending
    simp only [work, calls, SpliceStep.isPumps, Leg.write, hphase, List.length_drop, if_true]
    omega
  | refused hwriting hshut =>
    simp only [work, calls, SpliceStep.isPumps, enter, (isWriting_iff.1 hwriting).1,
      Phase.callsLeft, if_true]
    omega
  | seeEnd hreading hdry =>
    simp only [work, calls, SpliceStep.isPumps, enter, (isReading_iff.1 hreading).1,
      Phase.callsLeft, if_true]
    omega
  | fail hcopying =>
    simp only [work, calls, SpliceStep.isPumps, enter, hcopying, Phase.callsLeft, if_true]
    omega
  | finish hphase | shutTarget hphase =>
    simp only [work, calls, SpliceStep.isPumps, enter, hphase, Phase.callsLeft, if_true]
    omega
  | shutSource hphase =>
    simp only [work, calls, SpliceStep.isPumps, enter, hphase, Phase.callsLeft, Connection.shut,
      if_true]
    omega

/-- A step leaves what the other pump has to read, and what the peer there does. -/
lemma Takes.target_eq (h : l.Takes step l') : l'.target.unread = l.target.unread ∧
    l'.target.sent = l.target.sent ∧ l'.target.ended = l.target.ended := by
  cases h <;> exact ⟨rfl, rfl, rfl⟩

/-- A call of a pump leaves what the peer has sent. -/
lemma Takes.sent_eq (h : l.Takes step l') (hpumps : step.isPumps = true) :
    l'.source.sent = l.source.sent := by
  cases h with
  | send | endSending => cases hpumps
  | read | write | refused | seeEnd | fail | finish | shutSource | shutTarget => rfl

/-- A peer that has ended its sending has ended it. -/
lemma Takes.ended (h : l.Takes step l') (hended : l.source.ended = true) :
    l'.source.ended = true := by
  cases h with
  | endSending => rfl
  | send | read | write | refused | seeEnd | fail | finish | shutSource | shutTarget => exact hended

/-- What has failed remains failed. -/
lemma Takes.fault?_eq (h : l.Takes step l') {fault : Fault}
    (hfault : l.pump.phase.fault? = some fault) : l'.pump.phase.fault? = some fault := by
  cases h with
  | send | endSending => exact hfault
  | read hcan | seeEnd hcan =>
    rw [(isReading_iff.1 hcan).1] at hfault
    cases hfault
  | write hcan | refused hcan =>
    rw [(isWriting_iff.1 hcan).1] at hfault
    cases hfault
  | fail hphase | finish hphase =>
    rw [hphase] at hfault
    cases hfault
  | shutSource hphase | shutTarget hphase =>
    rw [hphase] at hfault
    exact hfault

end Leg

namespace Splice

variable {s s' : Splice} {d : Direction} {step : SpliceStep} {steps : List (Direction × SpliceStep)}

/-! ### Runs -/

/-- A step in a direction is one of the leg. -/
lemma exists_takes_of_step? (h : s.step? d step = some s') :
    ∃ l, (s.leg d).Takes step l ∧ s' = s.setLeg d l := by
  obtain ⟨l, hl, rfl⟩ := Option.map_eq_some_iff.1 h
  exact ⟨l, Leg.takes_of_step? hl, rfl⟩

/-- Both legs are sound. -/
def IsSound (s : Splice) : Prop := ∀ d, (s.leg d).IsSound (s.leg d.flip).pump.phase

/-- Nothing has passed between connections that are spliced. -/
lemma isSound_idle : idle.IsSound := by
  intro d
  cases d <;> exact ⟨rfl, by rintro ⟨⟩, rfl, rfl⟩

/-- **A step keeps a splice sound.** -/
lemma IsSound.of_step? (hs : s.IsSound) (h : s.step? d step = some s') : s'.IsSound := by
  obtain ⟨l, htakes, rfl⟩ := exists_takes_of_step? h
  intro e
  obtain rfl | rfl := d.eq_or_eq_flip e
  · rw [leg_setLeg, leg_setLeg_flip]
    exact (hs e).takes htakes
  · have hother := hs d.flip
    rw [leg_flip, Direction.flip_flip] at hother
    rw [leg_setLeg_flip, Direction.flip_flip, leg_setLeg]
    exact hother.across htakes

/-- The work of both pumps. -/
def work (s : Splice) : Nat := (s.leg .forth).work + (s.leg .back).work

/-- How much both peers have sent. -/
def amount (s : Splice) : Nat := (s.sent .forth).length + (s.sent .back).length

/-- The sum over both directions, from either side. -/
lemma add_flip (f : Direction → Nat) (d : Direction) : f .forth + f .back = f d + f d.flip := by
  cases d
  · rfl
  · exact Nat.add_comm _ _

/-- A call uses up work, and only what a peer sends makes more of it. -/
lemma work_step? (h : s.step? d step = some s') :
    s'.work + Leg.calls step + 2 * s.amount ≤ s.work + 2 * s'.amount := by
  obtain ⟨l, htakes, rfl⟩ := exists_takes_of_step? h
  obtain ⟨hunread, hsent, -⟩ := htakes.target_eq
  have hown := htakes.work_le
  have hother : ((s.setLeg d l).leg d.flip).work = (s.leg d.flip).work := by
    rw [leg_setLeg_flip, leg_flip s d]
    simp only [Leg.work, hunread]
  have hotherSent : ((s.setLeg d l).leg d.flip).source.sent = (s.leg d.flip).source.sent := by
    rw [leg_setLeg_flip, leg_flip s d]
    exact hsent
  simp only [work, amount, sent]
  rw [add_flip (fun e => ((s.setLeg d l).leg e).work) d, add_flip (fun e => (s.leg e).work) d,
    add_flip (fun e => ((s.setLeg d l).leg e).source.sent.length) d,
    add_flip (fun e => (s.leg e).source.sent.length) d, hother, hotherSent, leg_setLeg]
  omega

/-- What has failed remains failed. -/
lemma fault?_step? (h : s.step? d step = some s') {e : Direction} {fault : Fault}
    (hfault : s.fault? e = some fault) : s'.fault? e = some fault := by
  obtain ⟨l, htakes, rfl⟩ := exists_takes_of_step? h
  obtain rfl | rfl := d.eq_or_eq_flip e
  · rw [fault?, leg_setLeg]
    exact htakes.fault?_eq hfault
  · rw [fault?, leg_setLeg_flip]
    exact hfault

/-- A run goes on where its first step leads. -/
lemma run?_cons_iff : s.run? ((d, step) :: steps) = some s' ↔
    ∃ mid, s.step? d step = some mid ∧ mid.run? steps = some s' :=
  Option.bind_eq_some_iff

/-- **What has failed remains failed in every run.** -/
lemma fault?_run? (h : s.run? steps = some s') {fault : Fault} (hfault : s.fault? d = some fault) :
    s'.fault? d = some fault := by
  induction steps generalizing s with
  | nil =>
    cases h
    exact hfault
  | cons move steps ih =>
    obtain ⟨mid, hstep, hrun⟩ := run?_cons_iff.1 h
    exact ih hrun (fault?_step? hstep hfault)

/-- **Every run keeps a splice sound.** -/
lemma IsSound.of_run? (hs : s.IsSound) (h : s.run? steps = some s') : s'.IsSound := by
  induction steps generalizing s with
  | nil =>
    cases h
    exact hs
  | cons move steps ih =>
    obtain ⟨mid, hstep, hrun⟩ := run?_cons_iff.1 h
    exact ih (hs.of_step? hstep) hrun

/-- **The pumps make no more calls than there was work and the peers have made.** -/
lemma work_run? (h : s.run? steps = some s') :
    s'.work + steps.countP (·.2.isPumps) + 2 * s.amount ≤ s.work + 2 * s'.amount := by
  induction steps generalizing s with
  | nil =>
    cases h
    exact le_refl _
  | cons move steps ih =>
    obtain ⟨mid, hstep, hrun⟩ := run?_cons_iff.1 h
    have hfirst := work_step? hstep
    have hrest := ih hrun
    rw [Leg.calls] at hfirst
    rw [List.countP_cons]
    omega

/-! ### Rest -/

/-- The pumps are at rest: neither can make a call, unless one fails of itself. -/
def IsQuiet (s : Splice) : Prop :=
  ∀ d step, step.isPumps = true → (∀ fault, step ≠ .fail fault) → s.step? d step = none

end Splice

namespace Leg

variable {l l' : Leg} {step : SpliceStep}

/-- The next call can be made. -/
lemma isSome_step?_of_next? (h : l.next? = some step) :
    step.isPumps = true ∧ (∀ fault, step ≠ .fail fault) ∧ (l.step? step).isSome := by
  unfold next? at h
  split_ifs at h with hwriting hreading hunread hdry hover <;> cases h
  all_goals refine ⟨rfl, by rintro fault ⟨⟩, ?_⟩
  · rw [step?, hwriting]
    rfl
  · rw [step?, hreading, hunread]
    rfl
  · rw [step?, hreading, hdry]
    rfl
  · rw [step?, shut?]
    cases hphase : l.pump.phase with
    | copying =>
      have hnil : l.pump.pending = [] := by simpa [isWriting, hphase] using hwriting
      exact absurd (isReading_iff.2 ⟨hphase, hnil⟩) hreading
    | ending | tearing | closing => rfl
    | finished | failed =>
      rw [hphase] at hover
      exact absurd rfl hover

/-- A pump without a next call is over, or it waits: everything is carried, and more may come. -/
lemma next?_eq_none_iff : l.next? = none ↔ l.pump.phase.isOver = true ∨
    l.pump.phase = .copying ∧ l.pump.pending = [] ∧ l.source.unread = [] ∧
      l.source.isClosed = false := by
  unfold next? isWriting isReading
  cases hphase : l.pump.phase with
  | copying =>
    by_cases hpending : l.pump.pending = []
    · by_cases hunread : l.source.unread = []
      · simp [Phase.isOver, hpending, hunread, Connection.isDry]
      · simp [Phase.isOver, hpending, hunread]
    · simp [Phase.isOver, hpending]
  | ending | finished | tearing | closing | failed => simp [Phase.isOver]

/-- A pump without a next call makes no call, unless one fails of itself. -/
lemma Takes.exists_eq_fail (h : l.Takes step l') (hstep : step.isPumps = true)
    (hnext : l.next? = none) : ∃ fault, step = .fail fault := by
  have hcases := next?_eq_none_iff.1 hnext
  cases h with
  | send | endSending => cases hstep
  | read hreading hunread =>
    obtain ⟨hphase, -⟩ := isReading_iff.1 hreading
    rcases hcases with hover | ⟨-, -, hnil, -⟩
    · rw [hphase] at hover
      cases hover
    · exact absurd hnil hunread
  | write hwriting | refused hwriting =>
    obtain ⟨hphase, hpending⟩ := isWriting_iff.1 hwriting
    rcases hcases with hover | ⟨-, hnil, -⟩
    · rw [hphase] at hover
      cases hover
    · exact absurd hnil hpending
  | seeEnd hreading hdry =>
    obtain ⟨hphase, -⟩ := isReading_iff.1 hreading
    rcases hcases with hover | ⟨-, -, -, hopen⟩
    · rw [hphase] at hover
      cases hover
    · rw [Connection.isDry, hopen] at hdry
      cases hdry
  | fail => exact ⟨_, rfl⟩
  | finish hphase | shutSource hphase | shutTarget hphase =>
    rw [hphase] at hcases
    rcases hcases with ⟨⟨⟩⟩ | ⟨⟨⟩, -⟩

end Leg

namespace Splice

variable {s s' : Splice} {d : Direction} {step : SpliceStep} {steps : List (Direction × SpliceStep)}

/-- **The pumps are at rest if and only if neither has a next call.** -/
lemma isQuiet_iff : s.IsQuiet ↔ ∀ d, (s.leg d).next? = none := by
  constructor
  · intro h d
    by_contra hnext
    obtain ⟨step, hstep⟩ := Option.ne_none_iff_exists'.1 hnext
    obtain ⟨hpumps, hfail, hsome⟩ := Leg.isSome_step?_of_next? hstep
    have hnone := h d step hpumps hfail
    rw [step?, Option.map_eq_none_iff] at hnone
    rw [hnone] at hsome
    cases hsome
  · intro h d step hpumps hfail
    by_contra hsome
    obtain ⟨s', hs'⟩ := Option.ne_none_iff_exists'.1 hsome
    obtain ⟨l, htakes, -⟩ := exists_takes_of_step? hs'
    obtain ⟨fault, rfl⟩ := htakes.exists_eq_fail hpumps (h d)
    exact hfail fault rfl

/-- Where the pumps are at rest, each is over or waits for its peer. -/
lemma IsQuiet.isOver (h : s.IsQuiet) (d : Direction)
    (hclosed : (s.leg d).source.isClosed = true) : (s.leg d).pump.phase.isOver = true := by
  rcases Leg.next?_eq_none_iff.1 (isQuiet_iff.1 h d) with hover | ⟨-, -, -, hopen⟩
  · exact hover
  · rw [hopen] at hclosed
    cases hclosed

/-- Something has failed if and only if it has in one of the directions. -/
lemma hasFailed_iff : s.hasFailed = true ↔ ∃ d fault, s.fault? d = some fault := by
  rw [hasFailed, Bool.or_eq_true, Option.isSome_iff_exists, Option.isSome_iff_exists]
  constructor
  · rintro (⟨fault, h⟩ | ⟨fault, h⟩)
    · exact ⟨.forth, fault, h⟩
    · exact ⟨.back, fault, h⟩
  · rintro ⟨d, fault, h⟩
    cases d with
    | forth => exact .inl ⟨fault, h⟩
    | back => exact .inr ⟨fault, h⟩

/-- Nothing has failed in a direction where nothing has failed at all. -/
lemma fault?_eq_none (hfailed : s.hasFailed = false) (d : Direction) : s.fault? d = none := by
  cases hfault : s.fault? d with
  | none => rfl
  | some fault => cases hfailed.symm.trans (hasFailed_iff.2 ⟨d, fault, hfault⟩)

/-- A socket is shut for reading only if something has failed. -/
lemma IsSound.readShut_eq_false (hs : s.IsSound) (hfailed : s.hasFailed = false) (d : Direction) :
    (s.leg d).source.readShut = false := by
  rw [(hs d).readShut_eq, Phase.hasShutSource_eq_false (fault?_eq_none hfailed d),
    Phase.hasShutTarget_eq_false (fault?_eq_none hfailed d.flip)]
  rfl

/-- A socket is shut for writing only if something has failed, or by the pump that writes to it. -/
lemma IsSound.finished_of_seesEnd (hs : s.IsSound) (hfailed : s.hasFailed = false)
    (hend : s.seesEnd d = true) : (s.leg d).pump.phase = .finished := by
  have hwrite := (hs d.flip).writeShut_eq
  rw [Direction.flip_flip, Phase.hasShutSource_eq_false (fault?_eq_none hfailed d.flip),
    Bool.false_or] at hwrite
  have htarget : (s.leg d.flip).source = (s.leg d).target := by
    rw [leg_flip]
  rw [htarget] at hwrite
  exact Phase.eq_finished_of_hasEndedTarget (hwrite.symm.trans hend) (fault?_eq_none hfailed d)

/-- **Behind a pump that has finished, where nothing has failed, everything is received.** -/
lemma IsSound.complete (hs : s.IsSound) (hfailed : s.hasFailed = false)
    (hend : (s.leg d).pump.phase = .finished) :
    s.hasEnded d = true ∧ s.received d = s.sent d := by
  obtain ⟨hpending, hdry⟩ := (hs d).drained (by rw [hend]; rfl)
  simp only [Connection.isDry, Connection.isClosed, hs.readShut_eq_false hfailed d, Bool.or_false,
    Bool.and_eq_true, List.isEmpty_iff] at hdry
  refine ⟨hdry.1, ?_⟩
  rw [sent, (hs d).conserved, hpending, hdry.2, List.append_nil, List.append_nil]
  rfl

/-- **A copy fails only if a call fails of itself**, or if another copy has failed: a pump's target
is not shut for writing while the pump writes to it. -/
lemma IsSound.hasFailed_step? (hs : s.IsSound) (hfailed : s.hasFailed = false)
    (hfail : ∀ fault, step ≠ .fail fault) (h : s.step? d step = some s') : s'.hasFailed = false := by
  obtain ⟨l, htakes, rfl⟩ := exists_takes_of_step? h
  have hfault : l.pump.phase.fault? = none := by
    have hbefore := fault?_eq_none hfailed d
    cases htakes with
    | send | endSending => exact hbefore
    | read | write | seeEnd | finish => rfl
    | fail => exact absurd rfl (hfail _)
    | refused hwriting hshut =>
      have hphase := (Leg.isWriting_iff.1 hwriting).1
      rw [hs.finished_of_seesEnd hfailed hshut] at hphase
      cases hphase
    | shutSource hphase | shutTarget hphase =>
      rw [fault?, hphase] at hbefore
      cases hbefore
  rw [← Bool.not_eq_true, hasFailed_iff]
  rintro ⟨e, fault, he⟩
  obtain rfl | rfl := d.eq_or_eq_flip e
  · rw [fault?, leg_setLeg, hfault] at he
    cases he
  · rw [fault?, leg_setLeg_flip] at he
    cases (fault?_eq_none hfailed d.flip).symm.trans he

/-- Where no call fails of itself, no copy fails. -/
lemma IsSound.hasFailed_run? (hs : s.IsSound) (hfailed : s.hasFailed = false)
    (hfail : ∀ move ∈ steps, ∀ fault, move.2 ≠ .fail fault) (h : s.run? steps = some s') :
    s'.hasFailed = false := by
  induction steps generalizing s with
  | nil =>
    cases h
    exact hfailed
  | cons move steps ih =>
    obtain ⟨hfirst, hrest⟩ := List.forall_mem_cons.1 hfail
    obtain ⟨mid, hstep, hrun⟩ := run?_cons_iff.1 h
    exact ih (hs.of_step? hstep) (hs.hasFailed_step? hfailed hfirst hstep) hrest hrun

/-! ### The end -/

/-- A splice has a result when both pumps are over. -/
lemma result?_of_isOver (h : ∀ d, (s.leg d).pump.phase.isOver = true) :
    s.result? =
      match s.fault? .forth, s.fault? .back with
      | some fault, _ => some (.error fault)
      | none, some fault => some (.error fault)
      | none, none => some (.ok ()) := by
  have hforth : s.forth.phase.isOver = true := h .forth
  have hback : s.back.phase.isOver = true := h .back
  rw [result?, hforth, hback]
  rfl

/-- **A splice whose peers have both ended and in which nothing has failed comes to rest when
everything is received**, and it returns without a failure. -/
lemma IsSound.result?_of_hasEnded (hs : s.IsSound) (hfailed : s.hasFailed = false)
    (hended : ∀ d, s.hasEnded d = true) (hquiet : s.IsQuiet) :
    (∀ d, s.received d = s.sent d) ∧ s.result? = some (.ok ()) := by
  have hover (d : Direction) : (s.leg d).pump.phase.isOver = true := by
    apply hquiet.isOver d
    rw [Connection.isClosed, Bool.or_eq_true]
    exact .inl (hended d)
  refine ⟨fun d => ?_, ?_⟩
  · exact (hs.complete hfailed (Phase.eq_finished_of_isOver (hover d) (fault?_eq_none hfailed d))).2
  · rw [result?_of_isOver hover, fault?_eq_none hfailed, fault?_eq_none hfailed]

/-- Both sockets are shut in both directions. -/
def IsShut (s : Splice) : Prop :=
  ∀ d, (s.leg d).source.readShut = true ∧ (s.leg d).source.writeShut = true

/-- Where a pump is over with a failure, both sockets are shut. -/
lemma IsSound.isShut (hs : s.IsSound) {fault : Fault}
    (hphase : (s.leg d).pump.phase = .failed fault) : s.IsShut := by
  intro e
  obtain rfl | rfl := d.eq_or_eq_flip e
  · rw [(hs e).readShut_eq, (hs e).writeShut_eq, hphase]
    exact ⟨rfl, rfl⟩
  · rw [(hs d.flip).readShut_eq, (hs d.flip).writeShut_eq, Direction.flip_flip, hphase]
    exact ⟨Bool.or_true _, Bool.or_true _⟩

/-- A pump whose copy has failed shuts one socket and then the other, whatever else happens. -/
lemma IsSound.shut_or_isShut (hs : s.IsSound) {fault : Fault} (hfault : s.fault? d = some fault) :
    (s.step? d .shut).isSome ∨ s.IsShut := by
  rw [step?, Option.isSome_map, Leg.step?, Leg.shut?]
  rw [fault?] at hfault
  cases hphase : (s.leg d).pump.phase with
  | copying | ending | finished =>
    rw [hphase] at hfault
    cases hfault
  | tearing | closing => exact .inl rfl
  | failed => exact .inr (hs.isShut hphase)

/-- **A splice in which a copy has failed comes to rest when both sockets are shut in both
directions**, and it returns the first direction's failure, or the second's if there is none. -/
lemma IsSound.result?_of_hasFailed (hs : s.IsSound) (hfailed : s.hasFailed = true)
    (hquiet : s.IsQuiet) :
    s.IsShut ∧ ∃ fault, s.result? = some (.error fault) ∧
      (s.fault? .forth = some fault ∨ s.fault? .forth = none ∧ s.fault? .back = some fault) := by
  obtain ⟨d, fault, hfault⟩ := hasFailed_iff.1 hfailed
  have hshut : s.IsShut := by
    rcases hs.shut_or_isShut hfault with hsome | hshut
    · rw [hquiet d .shut rfl (by rintro fault ⟨⟩)] at hsome
      cases hsome
    · exact hshut
  have hover (e : Direction) : (s.leg e).pump.phase.isOver = true := by
    apply hquiet.isOver e
    rw [Connection.isClosed, Bool.or_eq_true]
    exact .inr (hshut e).1
  refine ⟨hshut, ?_⟩
  rw [result?_of_isOver hover]
  cases hforth : s.fault? .forth with
  | some fault => exact ⟨fault, rfl, .inl rfl⟩
  | none =>
    cases d with
    | forth => cases hforth.symm.trans hfault
    | back =>
      rw [hfault]
      exact ⟨fault, rfl, .inr ⟨rfl, rfl⟩⟩

/-- A splice that has returned is at rest. -/
lemma isQuiet_of_result? (h : s.result?.isSome) : s.IsQuiet := by
  unfold result? at h
  split at h
  · next hover =>
    rw [Bool.and_eq_true] at hover
    refine isQuiet_iff.2 fun d => Leg.next?_eq_none_iff.2 (.inl ?_)
    cases d with
    | forth => exact hover.1
    | back => exact hover.2
  · cases h

/-- **A splice is a faithful two-way pipe**, for every interleaving of what the peers do and the calls
of the two pumps, with any sizes of what is sent, read and written at once.

* What a peer has received is always the beginning of what the other one has sent.
* A peer sees the end only after it has received everything that the other one sent before it ended
  its sending, or after a copy has failed.
* No copy fails unless a call fails of itself; and if none has failed and both peers have ended, the
  pumps come to rest when both have received everything, and the splice returns without a failure.
* A copy that has failed remains failed, and its pump can always go on to shut the sockets, until both
  are shut in both directions; then the pumps come to rest with both of them over, and the splice
  returns a failure, the first direction's if both have failed.
* The pumps come to rest: they make at most two calls for each byte that was sent, and six more.  A
  splice that has returned is at rest. -/
theorem splice_is_pipe (h : idle.run? steps = some s) :
    (∀ d, s.received d <+: s.sent d) ∧
      (∀ d, s.seesEnd d = true →
        s.hasEnded d = true ∧ s.received d = s.sent d ∨ s.hasFailed = true) ∧
      ((∀ move ∈ steps, ∀ fault, move.2 ≠ .fail fault) → s.hasFailed = false) ∧
      (s.hasFailed = false → (∀ d, s.hasEnded d = true) → s.IsQuiet →
        (∀ d, s.received d = s.sent d) ∧ s.result? = some (.ok ())) ∧
      (∀ d fault, s.fault? d = some fault →
        ((s.step? d .shut).isSome ∨ s.IsShut) ∧
          ∀ more s', s.run? more = some s' → s'.fault? d = some fault) ∧
      (s.hasFailed = true → s.IsQuiet →
        s.IsShut ∧ ∃ fault, s.result? = some (.error fault) ∧
          (s.fault? .forth = some fault ∨
            s.fault? .forth = none ∧ s.fault? .back = some fault)) ∧
      steps.countP (·.2.isPumps) ≤
        2 * ((s.sent .forth).length + (s.sent .back).length) + 6 ∧
      (s.result?.isSome → s.IsQuiet) := by
  have hs : s.IsSound := isSound_idle.of_run? h
  refine ⟨fun d => ?_, fun d hend => ?_, fun hfail => isSound_idle.hasFailed_run? rfl hfail h,
    fun hfailed hended hquiet => hs.result?_of_hasEnded hfailed hended hquiet,
    fun d fault hfault => ⟨hs.shut_or_isShut hfault, fun more s' hmore => fault?_run? hmore hfault⟩,
    fun hfailed hquiet => hs.result?_of_hasFailed hfailed hquiet, ?_, isQuiet_of_result?⟩
  · exact ⟨_, (hs d).conserved.symm⟩
  · by_cases hfailed : s.hasFailed = true
    · exact .inr hfailed
    · have hnot := Bool.eq_false_of_not_eq_true hfailed
      exact .inl (hs.complete hnot (hs.finished_of_seesEnd hnot hend))
  · have hwork := work_run? h
    have hidle : idle.work = 6 := rfl
    have hnothing : idle.amount = 0 := rfl
    rw [hidle, hnothing] at hwork
    rw [amount] at hwork
    omega

/-- A run in which the second direction's copy fails while the first one still carries something, and
in which that one's next write is refused. -/
def failingRun : List (Direction × SpliceStep) :=
  [(.forth, .send "AUTH"), (.back, .send "OK"), (.forth, .read 3), (.back, .read 8),
    (.forth, .write 2), (.back, .fail (.os .ioError)), (.forth, .write 1), (.forth, .endSending),
    (.back, .shut), (.forth, .read 5), (.forth, .write 1), (.back, .shut), (.forth, .shut),
    (.forth, .shut)]

/-- The peer there has received the beginning of what was sent, both sockets are shut, and the
first direction's failure is returned. -/
theorem splice_is_pipe_failingRun :
    ∃ s, idle.run? failingRun = some s ∧ s.received .forth = Bytes.ofString "AUT" ∧
      s.received .forth <+: s.sent .forth ∧ s.IsShut ∧
      s.result? = some (.error (.os .brokenPipe)) := by
  obtain ⟨s, hrun, hreceived, hfailed, hresult⟩ : ∃ s, idle.run? failingRun = some s ∧
      s.received .forth = Bytes.ofString "AUT" ∧ s.hasFailed = true ∧
      s.result? = some (.error (.os .brokenPipe)) := ⟨_, rfl, rfl, rfl, rfl⟩
  obtain ⟨hbegins, -, -, -, -, hshut, -, hquiet⟩ := splice_is_pipe hrun
  have hrest : s.IsQuiet := hquiet (by rw [hresult]; rfl)
  exact ⟨s, hrun, hreceived, hbegins .forth, (hshut hfailed hrest).1, hresult⟩

/-! ### Exchanges -/

/-- The steps are calls of pumps, and none fails of itself. -/
def AreCalls (steps : List (Direction × SpliceStep)) : Prop :=
  ∀ move ∈ steps, move.2.isPumps = true ∧ ∀ fault, move.2 ≠ .fail fault

/-- A call of a pump leaves what the peers have sent. -/
lemma sent_step? (h : s.step? d step = some s') (hpumps : step.isPumps = true) (e : Direction) :
    s'.sent e = s.sent e := by
  obtain ⟨l, htakes, rfl⟩ := exists_takes_of_step? h
  obtain rfl | rfl := d.eq_or_eq_flip e
  · rw [sent, leg_setLeg]
    exact htakes.sent_eq hpumps
  · rw [sent, leg_setLeg_flip, sent, leg_flip]
    exact htakes.target_eq.2.1

/-- A peer that has ended its sending has ended it. -/
lemma hasEnded_step? (h : s.step? d step = some s') {e : Direction} (hended : s.hasEnded e = true) :
    s'.hasEnded e = true := by
  obtain ⟨l, htakes, rfl⟩ := exists_takes_of_step? h
  obtain rfl | rfl := d.eq_or_eq_flip e
  · rw [hasEnded, leg_setLeg]
    exact htakes.ended hended
  · rw [hasEnded, leg_flip] at hended
    rw [hasEnded, leg_setLeg_flip]
    exact htakes.target_eq.2.2.trans hended

/-- A next call is made, and there is less work behind it. -/
lemma exists_step?_of_next? (h : (s.leg d).next? = some step) :
    (step.isPumps = true ∧ ∀ fault, step ≠ .fail fault) ∧
      ∃ mid, s.step? d step = some mid ∧ mid.work < s.work := by
  obtain ⟨hpumps, hfail, hsome⟩ := Leg.isSome_step?_of_next? h
  obtain ⟨l, hl⟩ := Option.isSome_iff_exists.1 hsome
  have hstep : s.step? d step = some (s.setLeg d l) := by rw [step?, hl, Option.map_some]
  have hwork := work_step? hstep
  have hamount : (s.setLeg d l).amount = s.amount := by
    rw [amount, amount, sent_step? hstep hpumps, sent_step? hstep hpumps]
  rw [hamount, Leg.calls, if_pos hpumps] at hwork
  exact ⟨⟨hpumps, hfail⟩, _, hstep, by omega⟩

/-- Going on is a next call and going on behind it, or there is none. -/
lemma goOn_cases (calls : Nat) (s : Splice) :
    (∃ d step mid, (s.leg d).next? = some step ∧ s.step? d step = some mid ∧
      s.goOn (calls + 1) = mid.goOn calls) ∨ s.IsQuiet ∧ s.goOn (calls + 1) = s := by
  obtain ⟨d, hgoOn, hquiet⟩ : ∃ d,
      s.goOn (calls + 1) = (((s.leg d).next?).bind (s.step? d)).elim s (goOn calls) ∧
        ((s.leg d).next? = none → s.IsQuiet) := by
    refine ⟨if (s.leg .forth).next?.isSome then .forth else .back, ?_, fun hnone => ?_⟩
    · rw [goOn]
      split
      · next hstep =>
        rw [hstep]
        rfl
      · next hstep =>
        rw [hstep]
        rfl
    split_ifs at hnone with hforth
    · rw [hnone] at hforth
      cases hforth
    · rw [isQuiet_iff]
      rintro (_ | _)
      · exact Option.not_isSome_iff_eq_none.1 hforth
      · exact hnone
  cases hnext : (s.leg d).next? with
  | none => exact .inr ⟨hquiet hnext, by rw [hgoOn, hnext]; rfl⟩
  | some step =>
    obtain ⟨-, mid, hstep, -⟩ := exists_step?_of_next? hnext
    refine .inl ⟨d, step, mid, hnext, hstep, ?_⟩
    rw [hgoOn, hnext, Option.bind_some, hstep]
    rfl

/-- The pumps go on by calls, and they come to rest when there are as many calls as there is work. -/
lemma exists_run?_goOn (calls : Nat) (s : Splice) :
    ∃ steps, s.run? steps = some (s.goOn calls) ∧ AreCalls steps ∧
      (s.work ≤ calls → (s.goOn calls).IsQuiet) := by
  induction calls generalizing s with
  | zero =>
    refine ⟨[], rfl, List.forall_mem_nil _, fun hwork => isQuiet_iff.2 fun d => ?_⟩
    cases hnext : (s.leg d).next? with
    | none => exact hnext
    | some step =>
      obtain ⟨-, mid, -, hless⟩ := exists_step?_of_next? hnext
      omega
  | succ calls ih =>
    rcases goOn_cases calls s with ⟨d, step, mid, hnext, hstep, hgoOn⟩ | ⟨hquiet, hgoOn⟩
    · obtain ⟨hcall, mid', hstep', hless⟩ := exists_step?_of_next? hnext
      obtain rfl : mid' = mid := Option.some.inj (hstep'.symm.trans hstep)
      obtain ⟨steps, hrun, hcalls, hquiet⟩ := ih mid'
      rw [hgoOn]
      refine ⟨(d, step) :: steps, run?_cons_iff.2 ⟨mid', hstep, hrun⟩, ?_, fun hwork => ?_⟩
      · exact List.forall_mem_cons.2 ⟨hcall, hcalls⟩
      · exact hquiet (by omega)
    · rw [hgoOn]
      exact ⟨[], rfl, List.forall_mem_nil _, fun _ => hquiet⟩

/-- A run of calls leaves what the peers have sent, and that they have ended. -/
lemma run?_of_areCalls (hcalls : AreCalls steps) (h : s.run? steps = some s') (e : Direction) :
    s'.sent e = s.sent e ∧ (s.hasEnded e = true → s'.hasEnded e = true) := by
  induction steps generalizing s with
  | nil =>
    cases h
    exact ⟨rfl, id⟩
  | cons move steps ih =>
    obtain ⟨hfirst, hrest⟩ := List.forall_mem_cons.1 hcalls
    obtain ⟨mid, hstep, hrun⟩ := run?_cons_iff.1 h
    obtain ⟨hsent, hended⟩ := ih hrest hrun
    exact ⟨hsent.trans (sent_step? hstep hfirst.1 e), fun h => hended (hasEnded_step? hstep h)⟩

/-- **An exchange is complete**: both peers receive what the other one sends, and the splice returns
without a failure. -/
theorem exchange_is_complete (forth back : Bytes) :
    (exchange forth back).received .forth = forth ∧
      (exchange forth back).received .back = back ∧
      (exchange forth back).result? = some (.ok ()) := by
  let start : Splice := { idle with
    first := { Connection.idle.send forth with ended := true }
    second := { Connection.idle.send back with ended := true } }
  have hstart : idle.run? [(.forth, .send forth), (.back, .send back), (.forth, .endSending),
      (.back, .endSending)] = some start := rfl
  have hwork : start.work = 2 * (forth.length + back.length) + 6 := by
    show 2 * forth.length + 0 + 3 + (2 * back.length + 0 + 3) = _
    omega
  obtain ⟨steps, hrun, hcalls, hquiet⟩ := exists_run?_goOn start.work start
  have hs : start.IsSound := isSound_idle.of_run? hstart
  have hfailed := hs.hasFailed_run? rfl (fun move hmove => (hcalls move hmove).2) hrun
  have hended (d : Direction) : (start.goOn start.work).hasEnded d = true := by
    apply (run?_of_areCalls hcalls hrun d).2
    cases d <;> rfl
  have hexchange : exchange forth back = start.goOn start.work := by rw [hwork]; rfl
  obtain ⟨hreceived, hresult⟩ :=
    (hs.of_run? hrun).result?_of_hasEnded hfailed hended (hquiet le_rfl)
  rw [hexchange]
  refine ⟨?_, ?_, hresult⟩
  · rw [hreceived, (run?_of_areCalls hcalls hrun _).1]
    rfl
  · rw [hreceived, (run?_of_areCalls hcalls hrun _).1]
    rfl

end Splice

end ContainerEntry.Bus
