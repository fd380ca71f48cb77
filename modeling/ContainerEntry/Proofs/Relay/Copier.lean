import Mathlib
import ContainerEntry.Relay.Copier

/-!
# What a writer has accepted

A copy makes one call after another, and between any two calls somebody may compare what the writer
has accepted with what was read.

* **What a call can come to** (`Does`, `does_step`): one constructor for each of the things that the
  next call does to a copy, with the fault that it met.
* **Where a copy stands** (`IsSound`): what was accepted is what was spoilt in attempts that were made
  again, then the chunks that got through, then what was taken of the chunk that is being put; and the
  chunks that were read are those that got through and the one that is being put.  Every call keeps
  this (`IsSound.of_does`).
* **Only the first chunk is ever put again** (`Does.through_cases`): once a chunk has got through,
  nothing more is spoilt.

`accepted_prefix_iff` draws the conclusion: what was accepted is a beginning of what was read, at
every moment, unless a part of the first chunk was accepted in an attempt that was made again.
-/

namespace ContainerEntry.Relay

namespace Copier

variable {c c' : Copier} {e : Ends}

/-! ### Runs -/

/-- Calls and then others are one run. -/
lemma run_add (c : Copier) (m n : Nat) : c.run (m + n) = (c.run m).run n := by
  induction n with
  | zero => rfl
  | succ n ih => rw [Nat.add_succ, run, ih, run]

/-- A run begins with its first call. -/
lemma run_succ (c : Copier) (n : Nat) : c.run (n + 1) = c.step.run n := by
  rw [Nat.add_comm, run_add]
  rfl

/-! ### What a call can come to -/

/-- The fault that the next call meets; a write that accepts nothing meets one. -/
def fault? (c : Copier) : Option Fault :=
  match c.stage with
  | .reading =>
    match c.ends.reads 0 with
    | .bytes _ => none
    | .fault f => some f
  | .writing =>
    match c.ends.writes 0 with
    | .fault f => some f
    | .atMost 0 => some .writeZero
    | .atMost _ | .everything => none
  | .flushing => c.ends.flushes 0
  | .ended _ => none

/-- The ends behind the next call. -/
def endsAfter (c : Copier) : Ends :=
  match c.stage with
  | .reading => c.ends.afterRead
  | .writing => c.ends.afterWrite
  | .flushing => c.ends.afterFlush
  | .ended _ => c.ends

/-- Whether a fault of the next call is passed over: an interrupted read or write, and a missing peer
as long as no chunk has got through. -/
def passesOver (c : Copier) (f : Fault) : Bool :=
  match c.stage with
  | .reading | .writing => f.isInterrupted || c.awaitsPeer f
  | .flushing | .ended _ => c.awaitsPeer f

/-- Whether the next call sees the end of the input. -/
def SeesEnd (c : Copier) : Prop := c.stage = .reading ∧ c.ends.reads 0 = .bytes []

/-- What the next call of a copy comes to, with the ends behind it. -/
inductive Does (c : Copier) (e : Ends) : Copier → Prop where
  /-- There is no call. -/
  | rest {outcome : CopyOutcome} (hstage : c.stage = .ended outcome) : Does c e { c with ends := e }
  /-- A fault is met, and the same call is made again. -/
  | repeats {f : Fault} (hfault : c.fault? = some f) (hover : c.passesOver f = true) :
    Does c e { c with ends := e }
  /-- A fault is met, and the next attempt starts with the whole chunk. -/
  | restarts {f : Fault} (hfault : c.fault? = some f) (hover : c.passesOver f = true)
    (hpeer : c.awaitsPeer f = true) (hstage : c.stage = .writing ∨ c.stage = .flushing) :
    Does c e { c with
      ends := e
      stage := .writing
      spoilt := c.spoilt ++ c.taken
      taken := []
      left := c.taken ++ c.left }
  /-- A fault is met that ends the copy. -/
  | givesUp {f : Fault} (hfault : c.fault? = some f) (hover : c.passesOver f = false) :
    Does c e ({ c with ends := e }.giveUp f)
  /-- The input has ended. -/
  | seesEnd (hend : c.SeesEnd) : Does c e { c with ends := e, stage := .ended (.finished c.count) }
  /-- A chunk is read. -/
  | reads {chunk : Bytes} (hstage : c.stage = .reading) (hread : c.ends.reads 0 = .bytes chunk)
    (hchunk : chunk ≠ []) :
    Does c e { c with
      ends := e
      stage := .writing
      chunks := c.chunks ++ [chunk]
      left := chunk }
  /-- Something of what is left is accepted. -/
  | accepts {n : Nat} (hstage : c.stage = .writing) (hfault : c.fault? = none)
    (hpos : n = 0 → c.left = []) :
    Does c e ({ c with ends := e }.accept n)
  /-- The chunk has got through. -/
  | flushes (hstage : c.stage = .flushing) (hfault : c.fault? = none) :
    Does c e { c with
      ends := e
      stage := .reading
      through := c.through ++ [c.taken]
      taken := [] }

/-- A read does one of these things. -/
lemma does_read (hstage : c.stage = .reading) :
    c.Does e ({ c with ends := e }.read (c.ends.reads 0)) := by
  unfold read
  split
  · next hread => exact .seesEnd ⟨hstage, hread⟩
  · next hchunk hread => exact .reads hstage hread hchunk
  · next f hread =>
    have hfault : c.fault? = some f := by simp only [fault?, hstage, hread]
    have hover : c.passesOver f = (f.isInterrupted || c.awaitsPeer f) := by
      simp only [passesOver, hstage]
    split_ifs with h
    · exact .repeats hfault (hover.trans h)
    · exact .givesUp hfault (hover.trans (Bool.eq_false_of_not_eq_true h))

variable {f : Fault}

/-- An attempt that fails does one of these things. -/
lemma does_failAttempt (hfault : c.fault? = some f)
    (hover : c.passesOver f = c.awaitsPeer f) (hstage : c.stage = .writing ∨ c.stage = .flushing) :
    c.Does e ({ c with ends := e }.failAttempt f) := by
  unfold failAttempt
  split_ifs with hpeer
  · exact .restarts hfault (hover.trans hpeer) hpeer hstage
  · exact .givesUp hfault (hover.trans (Bool.eq_false_of_not_eq_true hpeer))

/-- A write does one of these things. -/
lemma does_write (hstage : c.stage = .writing) :
    c.Does e ({ c with ends := e }.write (c.ends.writes 0)) := by
  have hover : ∀ f, c.passesOver f = (f.isInterrupted || c.awaitsPeer f) := by
    intro f
    simp only [passesOver, hstage]
  unfold write
  split
  · next hwrite =>
    exact .accepts hstage (by simp only [fault?, hstage, hwrite]) List.length_eq_zero_iff.1
  · next hwrite => exact .givesUp (by simp only [fault?, hstage, hwrite]) (hover .writeZero)
  · next n hzero hwrite =>
    exact .accepts hstage (by simp only [fault?, hstage, hwrite]) fun h => absurd h hzero
  · next f hwrite =>
    have hfault : c.fault? = some f := by simp only [fault?, hstage, hwrite]
    split_ifs with hinterrupted
    · exact .repeats hfault (by rw [hover, hinterrupted, Bool.true_or])
    · refine does_failAttempt hfault ?_ (.inl hstage)
      rw [hover, Bool.eq_false_of_not_eq_true hinterrupted, Bool.false_or]

/-- A flush does one of these things. -/
lemma does_flush (hstage : c.stage = .flushing) :
    c.Does e ({ c with ends := e }.flush (c.ends.flushes 0)) := by
  have hfault : c.fault? = c.ends.flushes 0 := by simp only [fault?, hstage]
  unfold flush
  split
  · next hflush => exact .flushes hstage (hfault.trans hflush)
  · next f hflush =>
    exact does_failAttempt (hfault.trans hflush) (by simp only [passesOver, hstage]) (.inr hstage)

/-- A copy that is about to read reads. -/
lemma step_of_reading (hstage : c.stage = .reading) :
    c.step = { c with ends := c.ends.afterRead }.read (c.ends.reads 0) := by
  simp only [step, hstage]

/-- A copy that is about to write writes. -/
lemma step_of_writing (hstage : c.stage = .writing) :
    c.step = { c with ends := c.ends.afterWrite }.write (c.ends.writes 0) := by
  simp only [step, hstage]

/-- A copy that is about to flush flushes. -/
lemma step_of_flushing (hstage : c.stage = .flushing) :
    c.step = { c with ends := c.ends.afterFlush }.flush (c.ends.flushes 0) := by
  simp only [step, hstage]

/-- A copy that has ended does nothing. -/
lemma step_of_ended {outcome : CopyOutcome} (hstage : c.stage = .ended outcome) : c.step = c := by
  simp only [step, hstage]

/-- **Whatever the ends do, the next call does one of these things.** -/
lemma does_step (c : Copier) : c.Does c.endsAfter c.step := by
  unfold endsAfter
  cases hstage : c.stage with
  | reading => exact step_of_reading hstage ▸ does_read hstage
  | writing => exact step_of_writing hstage ▸ does_write hstage
  | flushing => exact step_of_flushing hstage ▸ does_flush hstage
  | ended outcome => exact (step_of_ended hstage).symm ▸ .rest hstage

/-! ### Where a copy stands -/

/-- The chunk that is being put, if there is one. -/
def pending (c : Copier) : List Bytes :=
  if (c.taken ++ c.left).isEmpty then [] else [c.taken ++ c.left]

/-- What the next call, or the outcome, tells about the chunk that is being put. -/
def Fits (c : Copier) : Prop :=
  match c.stage with
  | .reading => c.taken = [] ∧ c.left = []
  | .writing => c.left ≠ []
  | .flushing => c.taken ≠ [] ∧ c.left = []
  | .ended (.finished n) => c.taken = [] ∧ c.left = [] ∧ n = c.count
  | .ended (.hungUp n) => c.through ≠ [] ∧ n = c.count
  | .ended (.failed f) => f.isHangUp = false

/-- Nothing that was read is lost, and what was accepted besides is what was spoilt. -/
structure IsSound (c : Copier) : Prop where
  /-- What was accepted was spoilt, or got through, or belongs to the present attempt. -/
  accepted_eq : c.accepted = c.spoilt ++ (c.through.flatten ++ c.taken)
  /-- The chunks that were read got through, but for the one that is being put. -/
  chunks_eq : c.chunks = c.through ++ c.pending
  /-- No chunk is empty. -/
  ne_nil : ∀ chunk ∈ c.through, chunk ≠ []
  /-- The stage tells what is left. -/
  fits : c.Fits

/-- A copy that has not begun is sound. -/
lemma isSound_start (e : Ends) : (start e).IsSound :=
  ⟨rfl, rfl, by simp [start], ⟨rfl, rfl⟩⟩

/-- Only a missing peer after a chunk, or another fault, ends a copy. -/
lemma fits_giveUp (h : c.awaitsPeer f = false) : (c.giveUp f).Fits := by
  unfold giveUp Fits
  cases hhangUp : f.isHangUp with
  | false => exact hhangUp
  | true =>
    refine ⟨fun hnil => ?_, rfl⟩
    have hthrough : c.through = [] := hnil
    simp [awaitsPeer, hhangUp, hthrough] at h

/-- A fault that is not passed over does not tell that the peer is missing. -/
lemma awaitsPeer_eq_false (h : c.passesOver f = false) : c.awaitsPeer f = false := by
  unfold passesOver at h
  split at h
  · exact (Bool.or_eq_false_iff.1 h).2
  · exact (Bool.or_eq_false_iff.1 h).2
  · exact h
  · exact h

/-- In an attempt there is a chunk. -/
lemma Fits.chunk_ne_nil (h : c.Fits) (hstage : c.stage = .writing ∨ c.stage = .flushing) :
    c.taken ++ c.left ≠ [] := by
  rcases hstage with hstage | hstage
  · simp only [Fits, hstage] at h
    exact List.append_ne_nil_of_right_ne_nil _ h
  · simp only [Fits, hstage] at h
    exact List.append_ne_nil_of_left_ne_nil h.1 _

/-- **Every call keeps a copy sound.** -/
lemma IsSound.of_does (h : c.IsSound) (hdoes : c.Does e c') : c'.IsSound := by
  obtain ⟨haccepted, hchunks, hne, hfits⟩ := h
  cases hdoes with
  | rest | repeats => exact ⟨haccepted, hchunks, hne, hfits⟩
  | restarts _ _ hpeer hstage =>
    have hthrough : c.through = [] := List.isEmpty_iff.1 (Bool.and_eq_true_iff.1 hpeer).2
    refine ⟨?_, hchunks, hne, hfits.chunk_ne_nil hstage⟩
    simpa [hthrough] using haccepted
  | givesUp _ hover => exact ⟨haccepted, hchunks, hne, fits_giveUp (awaitsPeer_eq_false hover)⟩
  | seesEnd hend =>
    simp only [Fits, hend.1] at hfits
    exact ⟨haccepted, hchunks, hne, hfits.1, hfits.2, rfl⟩
  | reads hstage _ hchunk =>
    simp only [Fits, hstage] at hfits
    refine ⟨haccepted, ?_, hne, hchunk⟩
    simp [hchunks, pending, hfits, hchunk]
  | @accepts n hstage _ _ =>
    refine ⟨?_, ?_, hne, ?_⟩
    · simp [accept, haccepted]
    · simpa [accept, pending] using hchunks
    · simp only [Fits, hstage] at hfits
      unfold accept Fits
      cases hleft : c.left.drop n with
      | nil =>
        have htake : c.left.take n = c.left := by
          simpa [hleft] using List.take_append_drop n c.left
        exact ⟨by simp [htake, hfits], rfl⟩
      | cons b left => exact List.cons_ne_nil b left
  | flushes hstage _ =>
    simp only [Fits, hstage] at hfits
    obtain ⟨htaken, hleft⟩ := hfits
    refine ⟨by simp [haccepted], by simp [hchunks, pending, htaken, hleft], ?_, rfl, hleft⟩
    intro chunk hchunk
    rcases List.mem_append.1 hchunk with hold | hnew
    · exact hne chunk hold
    · rw [List.mem_singleton.1 hnew]
      exact htaken

/-- Every state of a run is sound. -/
lemma isSound_run (h : c.IsSound) (n : Nat) : (c.run n).IsSound := by
  induction n with
  | zero => exact h
  | succ n ih => exact ih.of_does (does_step (c.run n))

/-- What was read is what got through and the chunk that is being put. -/
lemma IsSound.flatten_chunks (h : c.IsSound) :
    c.chunks.flatten = c.through.flatten ++ (c.taken ++ c.left) := by
  rw [h.chunks_eq, List.flatten_append, pending]
  split_ifs with hempty
  · rw [List.isEmpty_iff.1 hempty]
    rfl
  · simp

/-! ### Beginnings -/

/-- A call that does not make an attempt again spoils nothing; and no attempt is made again once a
chunk has got through. -/
lemma Does.through_cases (hdoes : c.Does e c') :
    (c'.through = c.through ∧ (c.through = [] ∨ c'.spoilt = c.spoilt)) ∨
      (c'.stage = .reading ∧ c'.spoilt = c.spoilt) := by
  cases hdoes with
  | rest | repeats | givesUp | seesEnd | reads | accepts => exact .inl ⟨rfl, .inr rfl⟩
  | restarts _ _ hpeer =>
    exact .inl ⟨rfl, .inl (List.isEmpty_iff.1 (Bool.and_eq_true_iff.1 hpeer).2)⟩
  | flushes => exact .inr ⟨rfl, rfl⟩

/-- Between two chunks, everything that was read has got through, and was accepted behind what was
spoilt. -/
lemma IsSound.eq_of_between (h : c.IsSound) (htaken : c.taken = []) (hleft : c.left = []) :
    c.accepted = c.spoilt ++ c.chunks.flatten := by
  rw [h.accepted_eq, h.flatten_chunks, htaken, hleft]
  rfl

/-- Between two chunks, what was accepted is a beginning of what was read only if nothing was
spoilt. -/
lemma IsSound.spoilt_eq_nil (h : c.IsSound) (htaken : c.taken = []) (hleft : c.left = [])
    (hbegins : c.accepted <+: c.chunks.flatten) : c.spoilt = [] := by
  have hlength := hbegins.length_le
  rw [h.eq_of_between htaken hleft, List.length_append] at hlength
  exact List.length_eq_zero_iff.1 (by omega)

/-- Where nothing was spoilt, what was accepted is a beginning of what was read. -/
lemma IsSound.prefix_of_spoilt (h : c.IsSound) (hspoilt : c.spoilt = []) :
    c.accepted <+: c.chunks.flatten := by
  rw [h.accepted_eq, h.flatten_chunks, hspoilt, List.nil_append, ← List.append_assoc]
  exact List.prefix_append _ _

/-- While the first chunk is being put, what was accepted is a beginning of what was read if and only
if it is a beginning of that chunk. -/
lemma IsSound.prefix_iff_of_first (h : c.IsSound) (hthrough : c.through = []) :
    c.accepted <+: c.chunks.flatten ↔ c.spoilt ++ c.taken <+: c.taken ++ c.left := by
  rw [h.accepted_eq, h.flatten_chunks, hthrough]
  rfl

/-- If what was accepted is a beginning of what was read at every moment, nothing was spoilt of the
chunk that got through first. -/
lemma spoilt_eq_nil_of_beginning
    (hbegins : ∀ k, ((start e).run k).accepted <+: ((start e).run k).chunks.flatten) (k : Nat)
    (hthrough : ((start e).run k).through ≠ []) : ((start e).run k).spoilt = [] := by
  induction k with
  | zero => exact absurd rfl hthrough
  | succ k ih =>
    rcases (does_step ((start e).run k)).through_cases with ⟨hsame, hnone | hspoilt⟩ | ⟨hstage, -⟩
    · exact absurd (hsame.trans hnone) hthrough
    · exact hspoilt.trans (ih (hsame ▸ hthrough))
    · -- A chunk has just got through, so that nothing is left of it.
      have hsound := isSound_run (isSound_start e) (k + 1)
      have hfits := hsound.fits
      have hreading : ((start e).run (k + 1)).stage = .reading := hstage
      simp only [Fits, hreading] at hfits
      exact hsound.spoilt_eq_nil hfits.1 hfits.2 (hbegins (k + 1))

/-- **What a writer accepts is what was read, but for what was spoilt.**  At every moment of every
copy, what was accepted is first what attempts had got accepted that were made again, and then a
beginning of what was read.  So what was accepted is a beginning of what was read throughout, and all
of it when the copy finishes, if and only if nothing is ever spoilt, or the first chunk never gets
through and what its attempts got accepted is still a beginning of it. -/
theorem accepted_prefix_iff (e : Ends) :
    (∀ k, ∃ rest, ((start e).run k).accepted = ((start e).run k).spoilt ++ rest ∧
      rest <+: ((start e).run k).chunks.flatten) ∧
    (((∀ k, ((start e).run k).accepted <+: ((start e).run k).chunks.flatten) ∧
        ∀ k n, ((start e).run k).stage = .ended (.finished n) →
          ((start e).run k).accepted = ((start e).run k).chunks.flatten) ↔
      ∀ k, ((start e).run k).spoilt = [] ∨
        ((start e).run k).through = [] ∧
          ((start e).run k).spoilt ++ ((start e).run k).taken <+:
            ((start e).run k).taken ++ ((start e).run k).left) := by
  have hsound := isSound_run (isSound_start e)
  refine ⟨fun k => ⟨_, (hsound k).accepted_eq, ?_⟩, ?_, ?_⟩
  · rw [(hsound k).flatten_chunks, ← List.append_assoc]
    exact List.prefix_append _ _
  · rintro ⟨hbegins, -⟩ k
    by_cases hthrough : ((start e).run k).through = []
    · exact .inr ⟨hthrough, ((hsound k).prefix_iff_of_first hthrough).1 (hbegins k)⟩
    · exact .inl (spoilt_eq_nil_of_beginning hbegins k hthrough)
  · intro h
    have hbegins : ∀ k, ((start e).run k).accepted <+: ((start e).run k).chunks.flatten := by
      intro k
      rcases h k with hspoilt | ⟨hthrough, hfirst⟩
      · exact (hsound k).prefix_of_spoilt hspoilt
      · exact ((hsound k).prefix_iff_of_first hthrough).2 hfirst
    refine ⟨hbegins, fun k n hstage => ?_⟩
    have hfits := (hsound k).fits
    simp only [Fits, hstage] at hfits
    obtain ⟨htaken, hleft, -⟩ := hfits
    rw [(hsound k).eq_of_between htaken hleft,
      (hsound k).spoilt_eq_nil htaken hleft (hbegins k), List.nil_append]

/-- A writer that accepts two bytes, and then has no peer for a moment. -/
def falteringWrites : List WriteResult := [.atMost 2, .fault (.os .ioError)]

/-- Such a writer is given the first two bytes of the first chunk again. -/
theorem first_bytes_accepted_twice :
    copy [.bytes "hello"] falteringWrites [] =
        (.finished 5, ⟨[], [], "hehello", [.read 5, .wrote 2, .wrote 5, .flushed]⟩) ∧
      ((start (.ofScripts [.bytes "hello"] falteringWrites [])).run 6).stage =
        .ended (.finished 5) ∧
      ¬ ((start (.ofScripts [.bytes "hello"] falteringWrites [])).run 6).accepted <+:
        ((start (.ofScripts [.bytes "hello"] falteringWrites [])).run 6).chunks.flatten := by
  refine ⟨rfl, rfl, ?_⟩
  decide

end Copier

end ContainerEntry.Relay
