import Mathlib
import ContainerEntry.Relay.Drive

/-!
# What a session leaves behind

A session that has entered owes three things: the workload is waited for once, signals are delivered
to it no more, and the host's terminal is as it was (`Ledger.IsSettled`).

* **Before the door** (`prepare_leaves`, `eq_atDoor_of_prepare`): a refused call leaves nothing.
* **Behind it** (`startCopies_eq_ok_iff`, `startCopies_leaves`): either every copy starts that the
  streams need, or the session returns and leaves its workload running (`Ledger.IsRunning`).
* **At the end** (`waits_finish`, `isInSlot_finish`, `isRaw_finish`): the wait is counted, the slot
  is empty and the terminal is restored, however the wait went.

`entered_settles_iff` puts them together: an entered session is settled if and only if all its copies
start, the thread that waits does not break down and the terminal can be restored.  The terminal is
restored on every way out, and a door that stays shut leaves no descriptor of the container's
terminal behind.
-/

namespace ContainerEntry.Relay

open Entry

/-- What a session that has entered owes before it returns. -/
structure Ledger.IsSettled (l : Ledger) : Prop where
  /-- The workload was waited for once. -/
  waits : l.waits = 1
  /-- Signals are delivered to the session no more. -/
  isInSlot : l.isInSlot = false
  /-- The host's terminal is as it was. -/
  isRaw : l.isRaw = false

namespace Answers

variable (a : Answers) (streams : Streams)

/-- The copy of what is typed starts. -/
def StartsInput : Prop := a.hostForInput = none ∧ a.masterForInput = none ∧ a.startInput = none

/-- The copy of what is printed starts. -/
def StartsOutput : Prop := a.hostForOutput = none ∧ a.startOutput = none

/-- Every copy that a set of streams needs starts. -/
def StartsCopies : Prop :=
  (streams.stdin = true → a.StartsInput) ∧ (streams.outputTarget.isSome = true → a.StartsOutput)

/-- Whether the host's terminal is made raw for a set of streams. -/
def makesRaw : Bool := streams.stdin && a.raw.isNone

/-- Whether the host's terminal is made raw for a set of streams and cannot be restored. -/
def leavesRaw : Bool := a.makesRaw streams && a.restore.isSome

end Answers

variable {α β : Type} {streams : Streams} {a : Answers} {l : Ledger}

/-! ### Steps -/

/-- What a session leaves if its steps end it is of a certain kind. -/
def Leaves (kind : Ledger → Prop) (steps : Steps α) : Prop :=
  ∀ failure left, steps = .error (failure, left) → kind left

section Leaves

variable {kind : Ledger → Prop}

/-- Steps that go on leave nothing. -/
lemma Leaves.ok (x : α) : Leaves kind (.ok x : Steps α) := fun _ _ h => by cases h

/-- A call leaves the ledger that it was given. -/
lemma Leaves.require {answer : Option Fault} {left : Ledger} (h : kind left) :
    Leaves kind (require answer left) := by
  intro failure left' heq
  cases answer with
  | none => cases heq
  | some fault =>
    cases heq
    exact h

/-- Steps one after another leave what either of them leaves. -/
lemma Leaves.bind {first : Steps α} {next : α → Steps β} (hfirst : Leaves kind first)
    (hnext : ∀ x, first = .ok x → Leaves kind (next x)) : Leaves kind (first >>= next) := by
  intro failure left heq
  cases hx : first with
  | error stop =>
    rw [hx] at heq
    cases heq
    exact hfirst failure left hx
  | ok x =>
    rw [hx] at heq
    exact hnext x hx failure left heq

end Leaves

/-- Steps one after another go on if both do. -/
lemma bind_eq_ok_iff {first : Steps α} {next : α → Steps β} {y : β} :
    first >>= next = .ok y ↔ ∃ x, first = .ok x ∧ next x = .ok y := by
  constructor
  · intro h
    cases first with
    | error stop => cases h
    | ok x => exact ⟨x, rfl, h⟩
  · rintro ⟨x, rfl, h⟩
    exact h

/-- A session goes on after a call if the call is not refused. -/
lemma require_eq_ok_iff {answer : Option Fault} {left : Ledger} {u : Unit} :
    require answer left = .ok u ↔ answer = none := by
  cases answer with
  | none => exact iff_of_true rfl rfl
  | some fault => exact iff_of_false (fun h => by cases h) (fun h => by cases h)

/-! ### Before the door -/

/-- The ledger with which a session comes to the door. -/
def Ledger.atDoor (hasTerminal : Bool) (a : Answers) : Ledger :=
  { Ledger.nothing with
    holdsMaster := hasTerminal
    relayHolds := hasTerminal
    isSized := hasTerminal && a.resize.isNone
    door := .entering }

/-- **A session that does not come to the door leaves nothing.** -/
lemma prepare_leaves (hasTerminal : Bool) (a : Answers) :
    Leaves (· = .nothing) (prepare hasTerminal a) := by
  unfold prepare
  refine .bind (.require rfl) fun _ _ => ?_
  split
  · refine .bind (.require rfl) fun _ _ => .bind (.require rfl) fun _ _ => ?_
    exact .bind (.require rfl) fun _ _ => .ok _
  · exact .bind (.require rfl) fun _ _ => .ok _

/-- A session that comes to the door has nothing to wait for, and nothing in the slot. -/
lemma eq_atDoor_of_prepare {hasTerminal : Bool} (h : prepare hasTerminal a = .ok l) :
    Ledger.atDoor hasTerminal a = l := by
  cases hasTerminal with
  | false =>
    simp only [prepare, Bool.false_eq_true, if_false, bind_eq_ok_iff] at h
    obtain ⟨-, -, -, -, h⟩ := h
    exact Except.ok.inj h
  | true =>
    simp only [prepare, if_true, bind_eq_ok_iff] at h
    obtain ⟨-, -, -, -, -, -, -, -, h⟩ := h
    exact Except.ok.inj h

/-! ### Behind the door -/

/-- A session whose workload runs: nobody has waited for it yet, and signals are delivered to it. -/
structure Ledger.IsRunning (l : Ledger) (isRaw : Bool) : Prop where
  /-- Nobody has waited for the workload. -/
  waits : l.waits = 0
  /-- Signals are delivered to the session. -/
  isInSlot : l.isInSlot = true
  /-- Whether the host's terminal is raw. -/
  isRaw : l.isRaw = isRaw
  /-- The door is open. -/
  door : l.door = .running

/-- A session that returns while its workload runs leaves the workload as it is. -/
lemma Ledger.IsRunning.abandoned {isRaw : Bool} (h : l.IsRunning isRaw) :
    (l.abandoned a).IsRunning (isRaw && a.restore.isSome) :=
  ⟨h.waits, h.isInSlot, by rw [← h.isRaw]; rfl, h.door⟩

/-- The ledger of a session that copies for a set of streams. -/
def Ledger.copying (l : Ledger) (streams : Streams) (a : Answers) : Ledger :=
  { l with
    holdsMaster := false
    isRaw := if streams.stdin then a.raw.isNone else l.isRaw
    inputHolds := l.inputHolds || streams.stdin
    outputHolds := l.outputHolds || streams.outputTarget.isSome }

/-- A session that copies runs on, on a terminal that is raw if it can be. -/
lemma Ledger.IsRunning.copying (h : l.IsRunning false) :
    (l.copying streams a).IsRunning (a.makesRaw streams) := by
  refine ⟨h.waits, h.isInSlot, ?_, h.door⟩
  cases hin : streams.stdin with
  | true => simp [Ledger.copying, Answers.makesRaw, hin]
  | false => simp [Ledger.copying, Answers.makesRaw, hin, h.isRaw]

/-- A session that cannot copy what is typed leaves its workload running. -/
lemma startInput_leaves {isRaw : Bool} (h : l.IsRunning isRaw) :
    Leaves (·.IsRunning (a.raw.isNone && a.restore.isSome)) (startInput a l) := by
  have hraw : ({ l with isRaw := a.raw.isNone } : Ledger).IsRunning a.raw.isNone :=
    ⟨h.waits, h.isInSlot, rfl, h.door⟩
  refine .bind (.require hraw.abandoned) fun _ _ => .bind (.require hraw.abandoned) fun _ _ => ?_
  exact .bind (.require hraw.abandoned) fun _ _ => .ok _

/-- What is typed is copied, if there is need to, if and only if none of the calls is refused. -/
lemma startInput_eq_ok_iff (isNeeded : Bool) {l' : Ledger} :
    (if isNeeded then startInput a l else .ok l) = .ok l' ↔
      (isNeeded = true → a.StartsInput) ∧
        { l with
          isRaw := if isNeeded then a.raw.isNone else l.isRaw
          inputHolds := l.inputHolds || isNeeded } = l' := by
  cases isNeeded with
  | false => simp
  | true =>
    simp only [startInput, bind_eq_ok_iff, require_eq_ok_iff, Answers.StartsInput, if_true,
      Bool.or_true, forall_const]
    constructor
    · rintro ⟨-, hhost, -, hmaster, -, hstart, h⟩
      exact ⟨⟨hhost, hmaster, hstart⟩, Except.ok.inj h⟩
    · rintro ⟨⟨hhost, hmaster, hstart⟩, rfl⟩
      exact ⟨(), hhost, (), hmaster, (), hstart, rfl⟩

/-- A session that cannot copy what is printed leaves its workload running. -/
lemma startOutput_leaves {isRaw : Bool} (h : l.IsRunning isRaw) :
    Leaves (·.IsRunning (isRaw && a.restore.isSome)) (startOutput a l) :=
  .bind (.require h.abandoned) fun _ _ => .bind (.require h.abandoned) fun _ _ => .ok _

/-- What is printed is copied, if there is need to, if and only if none of the calls is refused. -/
lemma startOutput_eq_ok_iff (isNeeded : Bool) {l' : Ledger} :
    (if isNeeded then startOutput a l else .ok l) = .ok l' ↔
      (isNeeded = true → a.StartsOutput) ∧
        { l with outputHolds := l.outputHolds || isNeeded } = l' := by
  cases isNeeded with
  | false => simp
  | true =>
    simp only [startOutput, bind_eq_ok_iff, require_eq_ok_iff, Answers.StartsOutput, if_true,
      Bool.or_true, forall_const]
    constructor
    · rintro ⟨-, hhost, -, hstart, h⟩
      exact ⟨⟨hhost, hstart⟩, Except.ok.inj h⟩
    · rintro ⟨⟨hhost, hstart⟩, rfl⟩
      exact ⟨(), hhost, (), hstart, rfl⟩

/-- The copy of what is printed starts after that of what is typed. -/
lemma startCopies_eq_bind (streams : Streams) (a : Answers) (l : Ledger) :
    startCopies streams a l =
      ((if streams.stdin then startInput a l else .ok l) >>= fun l =>
        (if streams.outputTarget.isSome then startOutput a l else .ok l) >>= fun l =>
          .ok { l with holdsMaster := false }) := by
  unfold startCopies
  split_ifs <;> rfl

/-- **A session goes on to the wait if and only if every copy starts that its streams need.** -/
lemma startCopies_eq_ok_iff {l' : Ledger} :
    startCopies streams a l = .ok l' ↔ a.StartsCopies streams ∧ l.copying streams a = l' := by
  simp only [startCopies_eq_bind, bind_eq_ok_iff, startInput_eq_ok_iff, startOutput_eq_ok_iff]
  constructor
  · rintro ⟨-, ⟨hinput, rfl⟩, -, ⟨houtput, rfl⟩, h⟩
    exact ⟨⟨hinput, houtput⟩, Except.ok.inj h⟩
  · rintro ⟨⟨hinput, houtput⟩, rfl⟩
    exact ⟨_, ⟨hinput, rfl⟩, _, ⟨houtput, rfl⟩, rfl⟩

/-- **A session whose copies do not start leaves its workload running**, with the terminal restored
if it can be. -/
lemma startCopies_leaves (h : l.IsRunning false) :
    Leaves (·.IsRunning (a.leavesRaw streams)) (startCopies streams a l) := by
  rw [startCopies_eq_bind, Answers.leavesRaw, Answers.makesRaw]
  refine .bind ?_ fun l' hl' => .bind ?_ fun _ _ => .ok _
  · cases streams.stdin with
    | true => exact startInput_leaves h
    | false => exact .ok l
  · obtain ⟨-, rfl⟩ := (startInput_eq_ok_iff _).1 hl'
    cases streams.outputTarget.isSome with
    | false => exact .ok _
    | true =>
      -- the terminal is raw by now if it ever gets raw
      refine startOutput_leaves ⟨h.waits, h.isInSlot, ?_, h.door⟩
      cases streams.stdin with
      | true => rfl
      | false => exact h.isRaw

/-! ### The end -/

section finish

variable (a l)

/-- The wait is counted, whatever it came to. -/
lemma waits_finish : (finish a l).waits = l.waits + 1 := by
  unfold finish
  dsimp only
  split_ifs <;> rfl

/-- Nothing is delivered to a session after its end. -/
lemma isInSlot_finish : (finish a l).isInSlot = false := by
  unfold finish
  dsimp only
  split_ifs <;> rfl

/-- The terminal is restored at the end if it can be. -/
lemma isRaw_finish : (finish a l).isRaw = (l.isRaw && a.restore.isSome) := by
  unfold finish
  dsimp only
  split_ifs <;> rfl

end finish

/-- The end of a session tears it down, unless a signal is still being delivered to it. -/
lemma isDestroyed_finish {isRaw : Bool} (h : l.IsRunning isRaw) (hnot : l.isDestroyed = false) :
    (finish a l).isDestroyed = !a.isShared := by
  have hneeds : (if a.wait.toOption.isSome then l.door.record .exit else l.door).needsTeardown =
      true := by
    rw [h.door]
    split <;> rfl
  have hrestored : (l.restored a).isDestroyed = false := hnot
  unfold finish
  dsimp only
  rw [hneeds]
  cases a.isShared with
  | false => rfl
  | true => exact hrestored

/-! ### The whole session -/

/-- A session that has just entered runs, and nothing is raw yet. -/
lemma isRunning_entered (hasTerminal : Bool) (a : Answers) :
    (Ledger.atDoor hasTerminal a).entered.IsRunning false :=
  ⟨rfl, rfl, rfl, rfl⟩

/-- Without streams on the container's terminal there is nothing to copy. -/
lemma startCopies_of_isEmpty (hempty : streams.isEmpty = true) (hmaster : l.holdsMaster = false) :
    startCopies streams a l = .ok l := by
  have hnone : streams = .none := by
    obtain ⟨stdin, stdout, stderr⟩ := streams
    simpa [Streams.isEmpty, Streams.none, and_assoc] using hempty
  rw [hnone]
  change Except.ok { l with holdsMaster := false } = Except.ok l
  rw [← hmaster]

/-- **What an entered session can come to**: its copies do not start and the workload is left
running, or the session copies until the wait is over, well or badly. -/
lemma drive_entered_cases (hprepared : prepare (!streams.isEmpty) a = .ok l)
    (hdoor : a.door = .entered) :
    (¬ a.StartsCopies streams ∧ (drive streams a).ledger.IsRunning (a.leavesRaw streams)) ∨
      (a.StartsCopies streams ∧ ∃ running : Ledger,
        running.IsRunning (a.makesRaw streams) ∧ running.isDestroyed = false ∧
          (drive streams a).ledger =
            if a.waiter = none then finish a running else running.lost a) := by
  obtain rfl := eq_atDoor_of_prepare hprepared
  set l := Ledger.atDoor (!streams.isEmpty) a
  have hrunning : l.entered.IsRunning false := isRunning_entered _ a
  have hcopies : (if streams.isEmpty then .ok l.entered else startCopies streams a l.entered) =
      startCopies streams a l.entered := by
    split_ifs with hempty
    · refine (startCopies_of_isEmpty hempty ?_).symm
      simp [l, Ledger.entered, Ledger.atDoor, hempty]
    · rfl
  simp only [drive, hprepared, hdoor, hcopies]
  cases hstart : startCopies streams a l.entered with
  | error stop =>
    refine .inl ⟨fun hstarts => ?_, startCopies_leaves hrunning _ _ hstart⟩
    rw [startCopies_eq_ok_iff.2 ⟨hstarts, rfl⟩] at hstart
    cases hstart
  | ok copying =>
    obtain ⟨hstarts, rfl⟩ := startCopies_eq_ok_iff.1 hstart
    refine .inr ⟨hstarts, _, hrunning.copying, rfl, ?_⟩
    cases a.waiter <;> rfl

/-- The terminal is restored on every way out of an entered session, if it can be. -/
lemma isRaw_drive_of_entered (hprepared : prepare (!streams.isEmpty) a = .ok l)
    (hdoor : a.door = .entered) : (drive streams a).ledger.isRaw = a.leavesRaw streams := by
  rcases drive_entered_cases hprepared hdoor with ⟨-, hleft⟩ | ⟨-, running, hrunning, -, hend⟩
  · exact hleft.isRaw
  · rw [hend]
    split_ifs
    · rw [isRaw_finish, hrunning.isRaw]
      rfl
    · exact hrunning.abandoned.isRaw

/-- An entered session is waited for and out of the slot if and only if its copies start and the
thread that waits does not break down. -/
lemma waits_and_slot_iff (hprepared : prepare (!streams.isEmpty) a = .ok l)
    (hdoor : a.door = .entered) :
    ((drive streams a).ledger.waits = 1 ∧ (drive streams a).ledger.isInSlot = false) ↔
      a.StartsCopies streams ∧ a.waiter = none := by
  rcases drive_entered_cases hprepared hdoor with
    ⟨hstarts, hleft⟩ | ⟨hstarts, running, hrunning, -, hend⟩
  · refine iff_of_false (fun h => ?_) fun h => hstarts h.1
    exact absurd (hleft.waits.symm.trans h.1) (by decide)
  · rw [hend]
    split_ifs with hwaiter
    · rw [waits_finish, isInSlot_finish, hrunning.waits]
      exact iff_of_true ⟨rfl, rfl⟩ ⟨hstarts, hwaiter⟩
    · refine iff_of_false (fun h => ?_) fun h => hwaiter h.2
      exact absurd (hrunning.isInSlot.symm.trans h.2) (by decide)

/-- A session that was waited for is torn down, unless a signal is still being delivered to it. -/
lemma isDestroyed_drive (hprepared : prepare (!streams.isEmpty) a = .ok l)
    (hdoor : a.door = .entered) (hstarts : a.StartsCopies streams) (hwaiter : a.waiter = none) :
    (drive streams a).ledger.isDestroyed = !a.isShared := by
  rcases drive_entered_cases hprepared hdoor with ⟨hnot, -⟩ | ⟨-, running, hrunning, hnot, hend⟩
  · exact absurd hstarts hnot
  · rw [hend, if_pos hwaiter]
    exact isDestroyed_finish hrunning hnot

/-- A session whose door stays shut holds no descriptor of the container's terminal. -/
lemma isReleased_of_failed {failure : Failure} (hdoor : a.door = .failed failure) :
    (drive streams a).ledger.isReleased = true := by
  cases hprepared : prepare (!streams.isEmpty) a with
  | error stop =>
    have hnothing := prepare_leaves _ a _ _ hprepared
    simp only [drive, hprepared, hnothing]
    rfl
  | ok l =>
    obtain rfl := eq_atDoor_of_prepare hprepared
    simp only [drive, hprepared, hdoor]
    rfl

/-- **An entered session is settled if and only if its copies start, the thread that waits does not
break down, and the terminal can be restored.**  Then it is torn down as well, unless a signal is
still being delivered to it; and whatever happens, the terminal is restored if it can be.  A session
whose door stays shut holds no descriptor of the container's terminal. -/
theorem entered_settles_iff (streams : Streams) (a : Answers) :
    (∀ l, prepare (!streams.isEmpty) a = .ok l → a.door = .entered →
      ((drive streams a).ledger.IsSettled ↔
        a.StartsCopies streams ∧ a.waiter = none ∧ a.leavesRaw streams = false) ∧
      ((drive streams a).ledger.IsSettled →
        (drive streams a).ledger.isDestroyed = !a.isShared) ∧
      (drive streams a).ledger.isRaw = a.leavesRaw streams) ∧
    ∀ failure, a.door = .failed failure → (drive streams a).ledger.isReleased = true := by
  refine ⟨fun l hprepared hdoor => ?_, fun failure hdoor => isReleased_of_failed hdoor⟩
  have hraw := isRaw_drive_of_entered hprepared hdoor
  have hends := waits_and_slot_iff hprepared hdoor
  refine ⟨⟨fun h => ?_, fun ⟨hstarts, hwaiter, hrestores⟩ => ?_⟩, fun h => ?_, hraw⟩
  · obtain ⟨hstarts, hwaiter⟩ := hends.1 ⟨h.waits, h.isInSlot⟩
    exact ⟨hstarts, hwaiter, hraw.symm.trans h.isRaw⟩
  · obtain ⟨hwaits, hslot⟩ := hends.2 ⟨hstarts, hwaiter⟩
    exact ⟨hwaits, hslot, hraw.trans hrestores⟩
  · obtain ⟨hstarts, hwaiter⟩ := hends.1 ⟨h.waits, h.isInSlot⟩
    exact isDestroyed_drive hprepared hdoor hstarts hwaiter

/-- A session in which every call is answered, behind a door that does something. -/
def smoothAnswers (door : DoorAnswer) : Answers where
  runtime := none
  hostForSize := none
  masterForSize := none
  resize := none
  handlers := none
  door := door
  raw := none
  hostForInput := none
  masterForInput := none
  startInput := none
  hostForOutput := none
  startOutput := none
  waiter := none
  wait := .ok (.exited 0)
  restore := none
  isShared := false

/-- With a terminal on every stream and every call answered, an entered session is settled, and one
that does not enter holds nothing of the container's terminal. -/
theorem entered_settles_smooth :
    (drive ⟨true, true, true⟩ (smoothAnswers .entered)).ledger.IsSettled ∧
      (drive ⟨true, true, true⟩ (smoothAnswers (.failed .busDial))).ledger.isReleased = true := by
  obtain ⟨hsettled, -, -⟩ :=
    (entered_settles_iff ⟨true, true, true⟩ (smoothAnswers .entered)).1 _ rfl rfl
  refine ⟨hsettled.2 ⟨⟨fun _ => ⟨rfl, rfl, rfl⟩, fun _ => ⟨rfl, rfl⟩⟩, rfl, rfl⟩, ?_⟩
  exact (entered_settles_iff ⟨true, true, true⟩ (smoothAnswers (.failed .busDial))).2 _ rfl

/-- A session that has entered, and gets no thread for the copy of what is printed, returns the
failure while the workload runs: nobody waits for it, and it stays in the slot. -/
theorem entered_and_left_running :
    let a := { smoothAnswers .entered with startOutput := some (.os .wouldBlock) }
    let driven := drive ⟨true, true, false⟩ a
    a.door = .entered ∧ (prepare true a).toOption.isSome = true ∧
      driven.outcome = .returned (.error (.io (.os .wouldBlock))) ∧
      driven.ledger.waits = 0 ∧ driven.ledger.isInSlot = true ∧ driven.ledger.isRaw = false ∧
      ¬ driven.ledger.IsSettled :=
  ⟨rfl, rfl, rfl, rfl, rfl, rfl, fun h => absurd h.waits (by decide)⟩

end ContainerEntry.Relay
