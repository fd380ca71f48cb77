import Mathlib
import ContainerEntry.Proofs.Relay.Copier

/-!
# A copy that follows scripts

`copy` takes scripts and writes each chunk in one go; a `Copier` makes one call at a time.  On ends
that follow the same scripts the two do the same.

* **Writing a chunk whole is so many writes** (`run_writeWhole`), **putting it is one attempt**
  (`run_put`), and **putting it until it is through is so many attempts** (`run_putUntil`): every
  failed attempt uses up a step of a script, so that `copy` never runs out of patience.
* **The copies end alike** (`comesTo_copy`): with the same outcome, and with the same bytes accepted.
-/

namespace ContainerEntry.Relay

open Copier

/-! ### Scripts -/

namespace Ends

variable {reads : List ReadResult} {writes : List WriteResult} {flushes : List (Option Fault)}

@[simp]
lemma afterFlush_ofScripts :
    (ofScripts reads writes flushes).afterFlush = ofScripts reads writes (flushes.drop 1) := by
  cases flushes <;> rfl

@[simp]
lemma flushes_ofScripts : (ofScripts reads writes flushes).flushes 0 = flushes.head?.join := by
  cases flushes <;> rfl

end Ends

/-! ### Writes -/

/-- Writing bytes whole uses up steps of a script. -/
lemma length_left_writeWhole (writes : List WriteResult) (buffer : Bytes) :
    (writeWhole writes buffer).left.length ≤ writes.length := by
  fun_induction writeWhole writes buffer with
  | case1 | case2 | case3 | case5 | case6 => simp
  | case4 f writes buffer hne hf ih => exact ih.trans (Nat.le_succ _)
  | case7 n writes buffer hne hn taken run ih => exact ih.trans (Nat.le_succ _)

/-- Writing bytes whole uses up a step of a script if it fails. -/
lemma length_left_writeWhole_lt {writes : List WriteResult} {buffer : Bytes} {f : Fault}
    (h : (writeWhole writes buffer).fault = some f) :
    (writeWhole writes buffer).left.length < writes.length := by
  fun_induction writeWhole writes buffer with
  | case1 | case2 | case3 => cases h
  | case5 | case6 => simp
  | case4 f writes buffer hne hf ih => exact (ih h).trans (Nat.lt_succ_self _)
  | case7 n writes buffer hne hn taken run ih => exact (ih h).trans (Nat.lt_succ_self _)

/-- What is accepted is a beginning of what is written. -/
lemma accepted_writeWhole_isPrefix (writes : List WriteResult) (buffer : Bytes) :
    (writeWhole writes buffer).accepted <+: buffer := by
  fun_induction writeWhole writes buffer with
  | case1 | case2 | case3 => exact List.prefix_refl _
  | case5 | case6 => exact List.nil_prefix
  | case4 f writes buffer hne hf ih => exact ih
  | case7 n writes buffer hne hn taken run ih =>
    have hwhole := (List.prefix_append_right_inj (buffer.take n)).2 ih
    rwa [List.take_append_drop] at hwhole

/-- What is written whole is accepted. -/
lemma accepted_writeWhole {writes : List WriteResult} {buffer : Bytes}
    (h : (writeWhole writes buffer).fault = none) :
    (writeWhole writes buffer).accepted = buffer := by
  fun_induction writeWhole writes buffer with
  | case1 | case2 | case3 => rfl
  | case5 | case6 => cases h
  | case4 f writes buffer hne hf ih => exact ih h
  | case7 n writes buffer hne hn taken run ih =>
    have hrest : run.accepted = buffer.drop n := ih h
    simp only [taken, hrest, List.take_append_drop]

namespace Copier

variable {c : Copier} {reads : List ReadResult} {writes : List WriteResult}
  {flushes : List (Option Fault)}

/-- The copy after the writes of a run. -/
def wrote (c : Copier) (ends : Ends) (run : WriteRun) : Copier :=
  let after := { c with
    ends := ends
    taken := c.taken ++ run.accepted
    left := c.left.drop run.accepted.length
    accepted := c.accepted ++ run.accepted }
  match run.fault with
  | none => { after with stage := .flushing }
  | some f => after.failAttempt f

/-- A write that leaves something, and a run of writes behind it, are one run of writes. -/
lemma wrote_accept {n : Nat} (hstage : c.stage = .writing) (hrest : c.left.drop n ≠ []) (e : Ends)
    {run whole : WriteRun} (hfault : whole.fault = run.fault)
    (haccepted : whole.accepted = c.left.take n ++ run.accepted) :
    (c.accept n).wrote e run = c.wrote e whole := by
  have hlt : n < c.left.length := by
    rw [ne_eq, List.drop_eq_nil_iff] at hrest
    omega
  have hmin : min n c.left.length = n := Nat.min_eq_left hlt.le
  simp [wrote, accept, hstage, hmin, hfault, haccepted, Nat.not_le.2 hlt]

/-- **Writing what is left whole is so many writes.** -/
lemma run_writeWhole (hends : c.ends = .ofScripts reads writes flushes)
    (hstage : c.stage = .writing) (hleft : c.left ≠ []) :
    ∃ k, c.run k = c.wrote (.ofScripts reads (writeWhole writes c.left).left flushes)
      (writeWhole writes c.left) := by
  induction writes generalizing c with
  | nil =>
    have hfirst : c.step = { c with ends := .ofScripts reads [] flushes }.write .everything := by
      rw [step_of_writing hstage, hends]
      rfl
    refine ⟨1, ?_⟩
    simp [run, hfirst, writeWhole, write, accept, wrote]
  | cons w writes ih =>
    have hfirst : c.step = { c with ends := .ofScripts reads writes flushes }.write w := by
      rw [step_of_writing hstage, hends]
      rfl
    cases w with
    | everything =>
      refine ⟨1, ?_⟩
      simp [run, hfirst, writeWhole, write, accept, wrote]
    | fault f =>
      cases hinterrupted : f.isInterrupted with
      | true =>
        obtain ⟨k, hk⟩ := ih (c := { c with ends := .ofScripts reads writes flushes }) rfl hstage
          hleft
        refine ⟨k + 1, ?_⟩
        simp only [run_succ, hfirst, write, hinterrupted, if_true, hk, writeWhole]
        rfl
      | false =>
        refine ⟨1, ?_⟩
        simp [run, hfirst, writeWhole, write, hinterrupted, wrote]
    | atMost n =>
      cases n with
      | zero =>
        refine ⟨1, ?_⟩
        simp [run, hfirst, write, writeWhole, wrote, failAttempt, awaitsPeer, Fault.isHangUp, giveUp]
      | succ n =>
        change c.step = { c with ends := .ofScripts reads writes flushes }.accept (n + 1) at hfirst
        by_cases hrest : c.left.drop (n + 1) = []
        · refine ⟨1, ?_⟩
          have hle := List.drop_eq_nil_iff.1 hrest
          simp [run, hfirst, writeWhole, hrest, hle, accept, wrote]
        · have hwriting : c.step.stage = .writing := by simp [hfirst, accept, hrest]
          obtain ⟨k, hk⟩ := ih (c := c.step) (by rw [hfirst]; rfl) hwriting
            (by rw [hfirst]; exact hrest)
          refine ⟨k + 1, ?_⟩
          have hwhole : writeWhole (.atMost (n + 1) :: writes) c.left =
              { writeWhole writes (c.left.drop (n + 1)) with
                accepted := c.left.take (n + 1) ++ (writeWhole writes (c.left.drop (n + 1))).accepted
                acts := .wrote (c.left.take (n + 1)).length ::
                  (writeWhole writes (c.left.drop (n + 1))).acts } := by
            simp only [writeWhole]
          rw [run_succ, hk, hwhole, hfirst]
          exact wrote_accept (c := { c with ends := _ }) hstage hrest _ rfl rfl

/-! ### Attempts -/

/-- The ends of a copy are what is left of the scripts of a sink, and the same bytes were accepted. -/
structure Follows (c : Copier) (reads : List ReadResult) (s : Sink) : Prop where
  /-- The ends are what is left of the scripts. -/
  ends_eq : c.ends = .ofScripts reads s.writes s.flushes
  /-- The same bytes were accepted. -/
  accepted_eq : c.accepted = s.accepted

/-- How an attempt leaves a copy: the chunk got through, or it is put again, or the copy has ended.
-/
def Settles (c : Copier) : Option Fault → Copier → Prop
  | none, after => after.stage = .reading ∧ after.through = c.through ++ [c.left]
  | some f, after =>
    if c.awaitsPeer f then
      after.stage = .writing ∧ after.through = c.through ∧ after.taken = [] ∧ after.left = c.left
    else after.stage = .ended (if f.isHangUp then .hungUp c.count else .failed f)

variable {s : Sink}

/-- A failed attempt moves no script and accepts nothing. -/
lemma Follows.failAttempt (h : c.Follows reads s) (f : Fault) :
    (c.failAttempt f).Follows reads s := by
  unfold Copier.failAttempt
  split_ifs
  · exact ⟨h.ends_eq, h.accepted_eq⟩
  · exact ⟨h.ends_eq, h.accepted_eq⟩

/-- An attempt that fails is made again, or ends the copy. -/
lemma settles_failAttempt {d : Copier} {f : Fault} (hthrough : d.through = c.through)
    (hchunk : d.taken ++ d.left = c.left) : c.Settles (some f) (d.failAttempt f) := by
  have hpeer : d.awaitsPeer f = c.awaitsPeer f := by rw [awaitsPeer, awaitsPeer, hthrough]
  unfold Copier.failAttempt
  rw [hpeer]
  cases hawaits : c.awaitsPeer f with
  | true => simp [Settles, hawaits, hthrough, hchunk]
  | false => simp [Settles, hawaits, giveUp, count, hthrough]

/-- **Putting a chunk is one attempt.** -/
lemma run_put (hfollows : c.Follows reads s) (hstage : c.stage = .writing) (htaken : c.taken = [])
    (hleft : c.left ≠ []) :
    ∃ k, (c.run k).Follows reads (s.put c.left).2 ∧ c.Settles (s.put c.left).1 (c.run k) := by
  obtain ⟨k, hk⟩ := run_writeWhole hfollows.ends_eq hstage hleft
  cases hfault : (writeWhole s.writes c.left).fault with
  | some f =>
    have hchunk := List.prefix_iff_eq_append.1 (accepted_writeWhole_isPrefix s.writes c.left)
    simp only [wrote, hfault] at hk
    refine ⟨k, ?_, ?_⟩
    · rw [hk]
      simp only [Sink.put, hfault]
      exact Follows.failAttempt ⟨rfl, by rw [hfollows.accepted_eq]⟩ f
    · rw [hk]
      simp only [Sink.put, hfault]
      exact settles_failAttempt rfl (by rw [htaken, List.nil_append, hchunk])
  | none =>
    have haccepted := accepted_writeWhole hfault
    simp only [wrote, hfault, haccepted, htaken, List.nil_append, List.drop_length] at hk
    have hnext : c.run (k + 1) = _ := (congrArg step hk).trans (step_of_flushing rfl)
    simp only [Ends.afterFlush_ofScripts, Ends.flushes_ofScripts] at hnext
    refine ⟨k + 1, ?_, ?_⟩
    · rw [hnext]
      simp only [Sink.put, hfault, haccepted]
      cases s.flushes.head?.join with
      | none => exact ⟨rfl, by simp [flush, Sink.note, hfollows.accepted_eq]⟩
      | some f => exact Follows.failAttempt ⟨rfl, by rw [hfollows.accepted_eq]; rfl⟩ f
    · rw [hnext]
      simp only [Sink.put, hfault]
      cases s.flushes.head?.join with
      | none => exact ⟨rfl, rfl⟩
      | some f => exact settles_failAttempt rfl (List.append_nil _)

/-- An attempt that fails uses up a step of a script. -/
lemma length_put_lt {chunk : Bytes} {f : Fault} (h : (s.put chunk).1 = some f) :
    (s.put chunk).2.writes.length + (s.put chunk).2.flushes.length <
      s.writes.length + s.flushes.length := by
  cases hfault : (writeWhole s.writes chunk).fault with
  | some g =>
    have hlt := length_left_writeWhole_lt hfault
    simp only [Sink.put, hfault]
    omega
  | none =>
    have hle := length_left_writeWhole s.writes chunk
    simp only [Sink.put, hfault] at h ⊢
    cases hflushes : s.flushes with
    | nil => simp [hflushes] at h
    | cons flush flushes =>
      simp only [Sink.note, List.drop_one, List.tail_cons, List.length_cons]
      omega

/-- **Putting a chunk until it is through is so many attempts**, and there are enough of them. -/
lemma run_putUntil {tries : Nat} {through : List Bytes} {chunk : Bytes}
    (hfollows : c.Follows reads s) (hstage : c.stage = .writing) (hthrough : c.through = through)
    (htaken : c.taken = []) (hleft : c.left = chunk) (hchunk : chunk ≠ [])
    (htries : s.writes.length + s.flushes.length < tries) :
    ∃ k, (c.run k).Follows reads (s.putUntil (!through.isEmpty) chunk tries).2 ∧
      match (s.putUntil (!through.isEmpty) chunk tries).1 with
      | none => (c.run k).stage = .reading ∧ (c.run k).through = through ++ [chunk]
      | some f => (c.run k).stage =
          .ended (if f.isHangUp then .hungUp through.flatten.length else .failed f) := by
  induction tries generalizing c s with
  | zero => omega
  | succ tries ih =>
    obtain ⟨k, hput, hsettles⟩ := run_put hfollows hstage htaken (hleft ▸ hchunk)
    rw [hleft] at hput hsettles
    cases hresult : (s.put chunk).1 with
    | none =>
      have hpair : s.put chunk = (none, (s.put chunk).2) := Prod.ext hresult rfl
      simp only [Settles, hresult, hthrough, hleft] at hsettles
      refine ⟨k, ?_⟩
      rw [Sink.putUntil, hpair]
      exact ⟨hput, hsettles⟩
    | some f =>
      have hpair : s.put chunk = (some f, (s.put chunk).2) := Prod.ext hresult rfl
      have hawaits : (f.isHangUp && !(!through.isEmpty)) = c.awaitsPeer f := by
        rw [Bool.not_not, awaitsPeer, hthrough]
      rw [Sink.putUntil, hpair]
      simp only [hawaits]
      cases hpeer : c.awaitsPeer f with
      | true =>
        simp only [Settles, hresult, hpeer, if_true] at hsettles
        obtain ⟨hwriting, hsame, htaken', hleft'⟩ := hsettles
        have hlt := length_put_lt hresult
        obtain ⟨m, hend⟩ := ih hput hwriting (hsame.trans hthrough) htaken' (hleft'.trans hleft)
          (by omega)
        rw [← run_add] at hend
        exact ⟨k + m, hend⟩
      | false =>
        simp only [Settles, hresult, hpeer, count, hthrough] at hsettles
        exact ⟨k, hput, hsettles⟩

/-! ### Copies -/

/-- The count tells whether a chunk has got through. -/
lemma IsSound.count_ne_zero (h : c.IsSound) : (c.count != 0) = !c.through.isEmpty := by
  unfold count
  cases hthrough : c.through with
  | nil => rfl
  | cons chunk through =>
    have hne : chunk ≠ [] := h.ne_nil chunk (by rw [hthrough]; exact List.mem_cons_self)
    have hpos := List.length_pos_iff.2 hne
    simp only [List.flatten_cons, List.length_append, List.isEmpty_cons, Bool.not_false, bne_iff_ne]
    omega

/-- The copy ends with an outcome, and with the bytes accepted that a sink has accepted. -/
def ComesTo (c : Copier) (result : CopyOutcome × Sink) : Prop :=
  ∃ k, (c.run k).stage = .ended result.1 ∧ (c.run k).accepted = result.2.accepted

/-- What a copy comes to later, it comes to. -/
lemma ComesTo.of_run {result : CopyOutcome × Sink} {k : Nat} (h : (c.run k).ComesTo result) :
    c.ComesTo result := by
  obtain ⟨m, hend⟩ := h
  rw [← run_add] at hend
  exact ⟨k + m, hend⟩

/-- A copy that has ended comes to its outcome. -/
lemma Follows.comesTo {outcome : CopyOutcome} (h : c.Follows reads s)
    (hstage : c.stage = .ended outcome) : c.ComesTo (outcome, s) :=
  ⟨0, hstage, h.accepted_eq⟩

/-- A chunk is put until it is through before the next one is read. -/
lemma copyFrom_chunk {chunk : Bytes} (hchunk : chunk ≠ []) (n : Nat) :
    copyFrom n (.bytes chunk :: reads) s =
      match (s.note (.read chunk.length)).putUntil (n != 0) chunk s.patience with
      | (none, s) => copyFrom (n + chunk.length) reads s
      | (some f, s) => (if f.isHangUp then .hungUp n else .failed f, s) := by
  rw [copyFrom]
  · rfl
  · exact hchunk

/-- A fault of a read is passed over, or ends the copy. -/
lemma copyFrom_fault (f : Fault) (n : Nat) :
    copyFrom n (.fault f :: reads) s =
      if f.isInterrupted || (f.isHangUp && !(n != 0)) then copyFrom n reads s
      else (if f.isHangUp then .hungUp n else .failed f, s) := by
  rw [copyFrom]
  cases f.isInterrupted <;> cases f.isHangUp <;> by_cases hn : n = 0 <;> simp [hn]

/-- A chunk that is read is put. -/
lemma read_chunk {chunk : Bytes} (hchunk : chunk ≠ []) :
    c.read (.bytes chunk) =
      { c with stage := .writing, chunks := c.chunks ++ [chunk], left := chunk } := by
  rw [read]
  exact hchunk

/-- **A chunk that is read is put until it is through**, or until the copy ends over it. -/
lemma run_chunk {chunk : Bytes} (hsound : c.IsSound)
    (hfollows : c.Follows (.bytes chunk :: reads) s) (hstage : c.stage = .reading)
    (hchunk : chunk ≠ []) :
    ∃ k, (c.run k).Follows reads
        ((s.note (.read chunk.length)).putUntil (c.count != 0) chunk s.patience).2 ∧
      match ((s.note (.read chunk.length)).putUntil (c.count != 0) chunk s.patience).1 with
      | none => (c.run k).stage = .reading ∧ (c.run k).count = c.count + chunk.length
      | some f => (c.run k).stage =
          .ended (if f.isHangUp then .hungUp c.count else .failed f) := by
  have hfirst : c.run 1 = { c with ends := c.ends.afterRead }.read (c.ends.reads 0) :=
    step_of_reading hstage
  rw [hfollows.ends_eq] at hfirst
  change c.run 1 = { c with ends := .ofScripts reads s.writes s.flushes }.read (.bytes chunk)
    at hfirst
  rw [read_chunk hchunk] at hfirst
  have hfits := hsound.fits
  simp only [Fits, hstage] at hfits
  have hreads : (c.run 1).Follows reads (s.note (.read chunk.length)) := by
    rw [hfirst]
    exact ⟨rfl, hfollows.accepted_eq⟩
  have hthrough : (c.run 1).through = c.through := by rw [hfirst]
  have htries : (s.note (.read chunk.length)).writes.length +
      (s.note (.read chunk.length)).flushes.length < s.patience := Nat.lt_succ_self _
  obtain ⟨k, hputs, hend⟩ := run_putUntil hreads (by rw [hfirst]) hthrough
    (by rw [hfirst]; exact hfits.1) (by rw [hfirst]) hchunk htries
  rw [← run_add] at hputs hend
  rw [hsound.count_ne_zero]
  refine ⟨1 + k, hputs, ?_⟩
  cases hresult : ((s.note (.read chunk.length)).putUntil (!c.through.isEmpty) chunk
    s.patience).1 with
  | none =>
    simp only [hresult] at hend
    exact ⟨hend.1, by simp [count, hend.2]⟩
  | some f =>
    simp only [hresult] at hend
    exact hend

/-- **A copy between two chunks goes on as the scripts say.** -/
lemma comesTo_copyFrom (hsound : c.IsSound) (hfollows : c.Follows reads s)
    (hstage : c.stage = .reading) : c.ComesTo (copyFrom c.count reads s) := by
  have hnext : c.run 1 = { c with ends := c.ends.afterRead }.read (c.ends.reads 0) :=
    step_of_reading hstage
  rw [hfollows.ends_eq] at hnext
  induction reads generalizing c s with
  | nil =>
    have hends : (c.run 1).Follows [] s := by
      rw [hnext]
      exact ⟨rfl, hfollows.accepted_eq⟩
    refine .of_run (hends.comesTo ?_)
    rw [hnext]
    rfl
  | cons result reads ih =>
    have hfirst : c.run 1 = { c with ends := .ofScripts reads s.writes s.flushes }.read result :=
      hnext
    have hrest : ∀ {d : Copier} {after : Sink}, d.IsSound → d.Follows reads after →
        d.stage = .reading → d.ComesTo (copyFrom d.count reads after) := by
      intro d after hd hafter hreading
      refine ih hd hafter hreading ?_
      rw [← hafter.ends_eq]
      exact step_of_reading hreading
    cases result with
    | bytes chunk =>
      by_cases hchunk : chunk = []
      · subst hchunk
        have hends : (c.run 1).Follows reads (s.note (.read 0)) := by
          rw [hfirst]
          exact ⟨rfl, hfollows.accepted_eq⟩
        refine .of_run (hends.comesTo ?_)
        rw [hfirst]
        rfl
      · obtain ⟨k, hputs, hend⟩ := run_chunk hsound hfollows hstage hchunk
        rw [copyFrom_chunk hchunk]
        rcases hresult : (s.note (.read chunk.length)).putUntil (c.count != 0) chunk
          s.patience with ⟨_ | f, after⟩
        · rw [hresult] at hputs hend
          exact .of_run (hend.2 ▸ hrest (isSound_run hsound k) hputs hend.1)
        · rw [hresult] at hputs hend
          exact .of_run (hputs.comesTo hend)
    | fault f =>
      -- Whether the count is zero and whether a chunk has got through is the same question.
      have hawaits : c.awaitsPeer f = (f.isHangUp && !(c.count != 0)) := by
        rw [hsound.count_ne_zero, Bool.not_not, awaitsPeer]
      have hfault : c.run 1 = if f.isInterrupted || c.awaitsPeer f then
          { c with ends := .ofScripts reads s.writes s.flushes }
        else { c with ends := .ofScripts reads s.writes s.flushes }.giveUp f := hfirst
      rw [copyFrom_fault, ← hawaits]
      refine .of_run (k := 1) ?_
      rw [hfault]
      cases f.isInterrupted || c.awaitsPeer f with
      | true =>
        exact hrest ⟨hsound.accepted_eq, hsound.chunks_eq, hsound.ne_nil, hsound.fits⟩
          ⟨rfl, hfollows.accepted_eq⟩ hstage
      | false =>
        have hends : Follows ({ c with ends := .ofScripts reads s.writes s.flushes }.giveUp f) reads
          s := ⟨rfl, hfollows.accepted_eq⟩
        exact hends.comesTo rfl

/-- **On ends that follow scripts, a copier does what `copy` does**: it ends with the same outcome, and
with the same bytes accepted. -/
lemma comesTo_copy (reads : List ReadResult) (writes : List WriteResult)
    (flushes : List (Option Fault)) :
    (start (.ofScripts reads writes flushes)).ComesTo (copy reads writes flushes) :=
  comesTo_copyFrom (s := ⟨writes, flushes, [], []⟩) (isSound_start _) ⟨rfl, rfl⟩ rfl

end Copier

end ContainerEntry.Relay
