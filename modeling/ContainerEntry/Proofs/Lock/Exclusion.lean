import Mathlib
import ContainerEntry.Lock.Holders
import ContainerEntry.Proofs.Lock.Acquisition

/-!
# Locks exclude each other

Levels conflict when they are equal or one of them is the full one.  Locks conflict by inode, and
what a path leads to can change, so that levels which conflict exclude each other is not a matter of
the table of locks alone: an acquisition creates files, also at the far end of dangling links.

The invariant is `Holders.IsSound`: the locked inodes are exactly those of the locks that somebody
holds, none twice, and every target of such a lock still leads to the inode that was locked for it.

* **A step keeps the invariant** (`step_isSound`), and so does every run (`run_isSound`), as long as
  nothing but locking touches the container's directory.
* **Conflicting levels share a target** (`exists_mem_targets`), so in a sound state no two locks of
  such levels are held (`IsSound.pairwise`).
* **What is kept until death stays** (`untilDeath_run`).

`locks_exclude` draws the conclusion for every run from a state in which nobody holds anything,
whatever files there are.
-/

namespace ContainerEntry.Lock

open Bytes

/-! ### Conflicting levels -/

/-- Whether a lock of one level excludes a lock of another. -/
def Level.conflicts (a b : Level) : Bool := a = b || a = .full || b = .full

/-- Conflicts are mutual. -/
lemma Level.conflicts_comm (a b : Level) : a.conflicts b = b.conflicts a := by
  cases a <;> cases b <;> rfl

/-- The full lock takes what any other lock takes. -/
lemma targets_subset_full (level : Level) (directory : Bytes) :
    level.targets directory ⊆ Level.full.targets directory := by
  cases level <;> simp [Level.targets, Level.sentinel?, Level.parts]

/-- Every lock takes something. -/
lemma targets_ne_nil (level : Level) (directory : Bytes) : level.targets directory ≠ [] := by
  cases level <;> simp [Level.targets, Level.sentinel?]

/-- Levels that conflict have a target in common. -/
lemma exists_mem_targets {a b : Level} (h : a.conflicts b) (directory : Bytes) :
    ∃ target, target ∈ a.targets directory ∧ target ∈ b.targets directory := by
  obtain ⟨target, htarget⟩ := List.exists_mem_of_ne_nil _ (targets_ne_nil a directory)
  obtain ⟨target', htarget'⟩ := List.exists_mem_of_ne_nil _ (targets_ne_nil b directory)
  simp only [Level.conflicts, Bool.or_eq_true, decide_eq_true_eq] at h
  rcases h with (rfl | rfl) | rfl
  · exact ⟨target, htarget, htarget⟩
  · exact ⟨target', targets_subset_full b directory htarget', htarget'⟩
  · exact ⟨target, htarget, targets_subset_full a directory htarget⟩

/-- Whether an event is one of locking, by a holder that does not wait. -/
def Event.isLocking : Event → Bool
  | .acquire _ _ wait | .untilDeath _ wait => !wait
  | .release _ | .hold _ => true
  | .remove _ | .rename _ _ | .makeDirectory _ | .makeSymlink _ _ | .makeLink _ _ | .removeTree =>
    false

/-! ### Sound states -/

/-- A lock covers the targets of its level: each of them leads to the inode that is locked for it.
-/
def Held.Covers (held : Held) (directory : Bytes) (files : Filesystem) : Prop :=
  List.Forall₂ (Target.LeadsTo files) (held.level.targets directory) held.inodes

/-- Each of the targets of a list has its inode. -/
lemma exists_leadsTo {files : Filesystem} {targets : List Target} {inodes : List Inode}
    {target : Target} (h : List.Forall₂ (Target.LeadsTo files) targets inodes)
    (htarget : target ∈ targets) : ∃ i ∈ inodes, target.LeadsTo files i := by
  induction h with
  | nil => cases htarget
  | @cons first i _ _ hi _ ih =>
    rcases List.mem_cons.1 htarget with rfl | hrest
    · exact ⟨i, List.mem_cons_self, hi⟩
    · obtain ⟨j, hj, hleads⟩ := ih hrest
      exact ⟨j, List.mem_cons_of_mem _ hj, hleads⟩

/-- Locks of levels that conflict share an inode. -/
lemma Held.Covers.exists_mem {a b : Held} {directory : Bytes} {files : Filesystem}
    (ha : a.Covers directory files) (hb : b.Covers directory files)
    (h : a.level.conflicts b.level) : ∃ i, i ∈ a.inodes ∧ i ∈ b.inodes := by
  obtain ⟨target, hta, htb⟩ := exists_mem_targets h directory
  obtain ⟨i, hi, hleads⟩ := exists_leadsTo ha hta
  obtain ⟨j, hj, hleads'⟩ := exists_leadsTo hb htb
  obtain rfl := hleads.unique hleads'
  exact ⟨i, hi, hj⟩

/-- A lock still covers its targets when files are created. -/
lemma Held.Covers.grows {held : Held} {directory : Bytes} {old new : Filesystem}
    (h : held.Covers directory old) (hold : old.IsGrounded) (hgrows : old.Grows sentinelMode new) :
    held.Covers directory new :=
  h.imp fun _ _ hleads => hleads.grows hold hgrows

namespace Holders

/-- The locks that somebody holds: those with a name, and those that last until death. -/
def locks (h : Holders) : List Held := h.live.map (·.2) ++ h.untilDeath

/-- The table of locks is that of the locks that are held, together with others that have just been
taken, and every lock covers its targets. -/
structure IsSound (directory : Bytes) (taken : List Held) (h : Holders) : Prop where
  /-- There is a working directory. -/
  grounded : h.space.files.IsGrounded
  /-- No two locks have one name. -/
  names_nodup : (h.live.map (·.1)).Nodup
  /-- The locked inodes are those of the locks. -/
  locked_perm : h.space.locked.Perm ((taken ++ h.locks).flatMap Held.inodes)
  /-- No inode is locked twice. -/
  locked_nodup : h.space.locked.Nodup
  /-- Every lock covers its targets. -/
  covers : ∀ held ∈ taken ++ h.locks, held.Covers directory h.space.files

variable {directory : Bytes} {taken : List Held} {h : Holders}

/-- In a sound state no two locks are of levels that conflict. -/
lemma IsSound.pairwise (hsound : IsSound directory taken h) :
    (taken ++ h.locks).Pairwise fun a b => ¬ a.level.conflicts b.level := by
  have hnodup := hsound.locked_perm.nodup_iff.1 hsound.locked_nodup
  obtain ⟨-, hdisjoint⟩ := List.nodup_flatMap.1 hnodup
  -- A target that the two levels share leads to one inode now, whenever the two were taken.
  refine hdisjoint.imp_of_mem fun {a b} ha hb hab hconflict => ?_
  obtain ⟨i, hia, hib⟩ := (hsound.covers a ha).exists_mem (hsound.covers b hb) hconflict
  exact hab hia hib

/-- What is sound stays sound when locks only change their place. -/
lemma IsSound.of_perm {taken' : List Held} {h' : Holders} (hsound : IsSound directory taken h)
    (hspace : h'.space = h.space) (hnames : (h'.live.map (·.1)).Nodup)
    (hperm : (taken' ++ h'.locks).Perm (taken ++ h.locks)) : IsSound directory taken' h' where
  grounded := hspace ▸ hsound.grounded
  names_nodup := hnames
  locked_perm := by
    rw [hspace]
    exact hsound.locked_perm.trans (hperm.symm.flatMap_right _)
  locked_nodup := hspace ▸ hsound.locked_nodup
  covers held hheld := by
    rw [hspace]
    exact hsound.covers held (hperm.mem_iff.1 hheld)

/-- What is sound stays sound when files are created. -/
lemma IsSound.of_grows {space : Space} (hsound : IsSound directory taken h)
    (hgrows : h.space.files.Grows sentinelMode space.files)
    (hlocked : space.locked = h.space.locked) :
    IsSound directory taken { h with space := space } where
  grounded := hgrows.isGrounded hsound.grounded
  names_nodup := hsound.names_nodup
  locked_perm := hlocked ▸ hsound.locked_perm
  locked_nodup := hlocked ▸ hsound.locked_nodup
  covers held hheld := (hsound.covers held hheld).grows hsound.grounded hgrows

/-- Locked inodes that are freed are locked no more. -/
lemma perm_foldl_erase {locked inodes rest : List Inode} (h : locked.Perm (inodes ++ rest)) :
    (inodes.foldl List.erase locked).Perm rest := by
  induction inodes generalizing locked with
  | nil => exact h
  | cons i inodes ih =>
    rw [List.foldl_cons]
    refine ih ?_
    have herase := h.erase i
    rwa [List.cons_append, List.erase_cons_head] at herase

/-- Freeing inodes only shortens the list of locked ones. -/
lemma foldl_erase_sublist (inodes locked : List Inode) :
    (inodes.foldl List.erase locked).Sublist locked := by
  induction inodes generalizing locked with
  | nil => exact .refl _
  | cons i inodes ih => exact (ih (locked.erase i)).trans List.erase_sublist

/-- A name that is looked up stands for one lock, and the others have other names. -/
lemma perm_of_lookup {live : List (Bytes × Held)} {holder : Bytes} {held : Held}
    (hnames : (live.map (·.1)).Nodup) (h : live.lookup holder = some held) :
    live.Perm ((holder, held) :: live.filter (·.1 != holder)) := by
  induction live with
  | nil => cases h
  | cons first live ih =>
    obtain ⟨name, other⟩ := first
    obtain ⟨hname, hnodup⟩ := List.nodup_cons.1 hnames
    by_cases heq : holder = name
    · subst heq
      rw [List.lookup_cons_self] at h
      cases h
      have hfilter : live.filter (·.1 != holder) = live := by
        refine List.filter_eq_self.2 fun e he => ?_
        have hne : e.1 ≠ holder := by
          rintro rfl
          exact hname (List.mem_map.2 ⟨e, he, rfl⟩)
        simpa using hne
      simp [hfilter]
    · rw [List.lookup_cons, beq_eq_false_iff_ne.2 heq] at h
      rw [List.filter_cons_of_pos (by simpa using Ne.symm heq)]
      exact ((ih hnodup h).cons _).trans (.swap _ _ _)

/-- A name that is not looked up stands for no lock. -/
lemma not_mem_names_of_lookup {live : List (Bytes × Held)} {holder : Bytes}
    (h : live.lookup holder = none) : holder ∉ live.map (·.1) := by
  intro hmem
  obtain ⟨e, he, rfl⟩ := List.mem_map.1 hmem
  rw [List.lookup_eq_none_iff] at h
  simpa using h e he

/-- No lock that is left has the name. -/
lemma not_mem_names_filter (live : List (Bytes × Held)) (holder : Bytes) :
    holder ∉ (live.filter (·.1 != holder)).map (·.1) := by
  simp

/-- The locks that are left have different names. -/
lemma nodup_names_filter {live : List (Bytes × Held)} (hnames : (live.map (·.1)).Nodup)
    (holder : Bytes) : ((live.filter (·.1 != holder)).map (·.1)).Nodup :=
  hnames.sublist (List.filter_sublist.map _)

/-- Letting a lock go keeps the state sound, and leaves its name free. -/
lemma IsSound.letGo (hsound : IsSound directory taken h) (holder : Bytes) :
    IsSound directory taken (h.letGo holder) ∧ holder ∉ (h.letGo holder).live.map (·.1) := by
  unfold Holders.letGo
  cases hlookup : h.live.lookup holder with
  | none => exact ⟨hsound, not_mem_names_of_lookup hlookup⟩
  | some held =>
    refine ⟨?_, not_mem_names_filter h.live holder⟩
    have hlive := perm_of_lookup hsound.names_nodup hlookup
    have hlocks : (taken ++ h.locks).Perm
        (held :: (taken ++ ((h.live.filter (·.1 != holder)).map (·.2) ++ h.untilDeath))) := by
      have hmap := (hlive.map (·.2)).append_right h.untilDeath
      rw [List.map_cons, List.cons_append] at hmap
      exact (hmap.append_left taken).trans List.perm_middle
    have hfree := perm_foldl_erase (hsound.locked_perm.trans (hlocks.flatMap_right _))
    exact {
      grounded := hsound.grounded
      names_nodup := nodup_names_filter hsound.names_nodup holder
      locked_perm := hfree
      locked_nodup := by
        refine hsound.locked_nodup.sublist ?_
        exact foldl_erase_sublist held.inodes h.space.locked
      covers := fun other hother =>
        hsound.covers other (hlocks.mem_iff.2 (List.mem_cons_of_mem _ hother)) }

/-! ### Steps -/

/-- A lock that has just been taken conflicts with none that is held. -/
lemma IsSound.takes {level : Level} {inodes : List Inode} {after : Space}
    (hsound : IsSound directory [] h)
    (htakes : Takes h.space (level.targets directory) inodes after) :
    IsSound directory [⟨level, inodes⟩] { h with space := after } := by
  have hgrows := (htakes.creates hsound.grounded).grows
  have hlocked := hsound.locked_perm
  have hnodup := hsound.locked_nodup
  obtain ⟨hinodes, hnew⟩ := htakes.nodup
  refine ⟨hgrows.isGrounded hsound.grounded, hsound.names_nodup, ?_, ?_, fun held hheld => ?_⟩
  · rw [htakes.locked_eq]
    exact (List.reverse_perm inodes).append hlocked
  · rw [htakes.locked_eq, List.nodup_append]
    refine ⟨List.nodup_reverse.2 hinodes, hnodup, fun i hi j hj hij => ?_⟩
    exact hnew i (List.mem_reverse.1 hi) (hij ▸ hj)
  · rcases List.mem_cons.1 hheld with rfl | hheld
    · exact htakes.leadsTo hsound.grounded
    · exact (hsound.covers held hheld).grows hsound.grounded hgrows

/-- An acquisition that fails leaves the locks as they are, and blames a lock. -/
lemma acquire_failed {space after : Space} {level : Level} {failure : Failure}
    (hspace : space.files.IsGrounded)
    (h : acquire space directory level false = (.failed failure, after)) :
    after.locked = space.locked ∧ space.files.Grows sentinelMode after.files ∧
      ∃ path, failure = .lockUnavailable path ∨ ∃ errno, failure = .lock path errno := by
  rcases acquire_cases space directory level with ⟨inodes, later, -, hacquire⟩ |
    ⟨passed, target, rest, inodes, before, -, htakes, hstop⟩
  · cases h.symm.trans hacquire
  have hgrows := (htakes.creates hspace).grows
  rcases hstop with ⟨fault, -, hacquire⟩ | ⟨i, opened, hopen, -, hacquire⟩
  · cases h.symm.trans hacquire
    exact ⟨free_of_takes htakes rfl, hgrows, _, .inr ⟨_, rfl⟩⟩
  · cases h.symm.trans hacquire
    have hopened := (creates_of_openTarget (hgrows.isGrounded hspace) hopen).grows
    exact ⟨free_of_takes htakes (openTarget_locked hopen), hgrows.trans hopened, _, .inl rfl⟩

/-- An acquisition in a sound state takes its targets, or fails and leaves the state sound. -/
lemma IsSound.acquire_cases (hsound : IsSound directory [] h) (level : Level) :
    (∃ inodes after, acquire h.space directory level false = (.acquired inodes, after) ∧
        IsSound directory [⟨level, inodes⟩] { h with space := after }) ∨
      ∃ failure after, acquire h.space directory level false = (.failed failure, after) ∧
        IsSound directory [] { h with space := after } ∧
        ∃ path, failure = .lockUnavailable path ∨ ∃ errno, failure = .lock path errno := by
  have hfailed : ∀ failure after, acquire h.space directory level false = (.failed failure, after) →
      IsSound directory [] { h with space := after } ∧
        ∃ path, failure = .lockUnavailable path ∨ ∃ errno, failure = .lock path errno := by
    intro failure after hacquire
    obtain ⟨hlocked, hgrows, hfailure⟩ := acquire_failed hsound.grounded hacquire
    exact ⟨hsound.of_grows hgrows hlocked, hfailure⟩
  rcases Lock.acquire_cases h.space directory level with ⟨inodes, after, htakes, hacquire⟩ |
    ⟨passed, target, rest, inodes, before, -, -, ⟨fault, -, hacquire⟩ | ⟨i, opened, -, -, hacquire⟩⟩
  · exact .inl ⟨inodes, after, hacquire, hsound.takes htakes⟩
  · exact .inr ⟨_, _, hacquire, hfailed _ _ hacquire⟩
  · exact .inr ⟨_, _, hacquire, hfailed _ _ hacquire⟩

/-- Every step of locking keeps a sound state sound. -/
lemma step_isSound (hsound : IsSound directory [] h) {event : Event} (hevent : event.isLocking) :
    IsSound directory [] (h.step directory event).2 := by
  cases event with
  | acquire level holder wait =>
    obtain rfl : wait = false := by simpa [Event.isLocking] using hevent
    rcases hsound.acquire_cases level with ⟨inodes, after, hacquire, htaken⟩ |
      ⟨failure, after, hacquire, hfailed, -⟩
    · -- The new lock is taken before the old one of the same name is let go, so the two are held
      -- together for a moment and must not conflict either.
      obtain ⟨hgone, hname⟩ := htaken.letGo holder
      simp only [step, hacquire]
      exact hgone.of_perm rfl (List.nodup_cons.2 ⟨hname, hgone.names_nodup⟩) (.refl _)
    · simp only [step, hacquire]
      exact hfailed
  | release holder =>
    simp only [step]
    cases h.live.lookup holder with
    | none => exact hsound
    | some held => exact (hsound.letGo holder).1
  | hold holder =>
    simp only [step]
    cases hlookup : h.live.lookup holder with
    | none => exact hsound
    | some held =>
      refine hsound.of_perm rfl (nodup_names_filter hsound.names_nodup holder) ?_
      have hlive := (perm_of_lookup hsound.names_nodup hlookup).map (·.2)
      exact List.perm_middle.trans (hlive.symm.append_right h.untilDeath)
  | untilDeath level wait =>
    obtain rfl : wait = false := by simpa [Event.isLocking] using hevent
    rcases hsound.acquire_cases level with ⟨inodes, after, hacquire, htaken⟩ |
      ⟨failure, after, hacquire, hfailed, -⟩
    · simp only [step, hacquire]
      exact htaken.of_perm rfl htaken.names_nodup List.perm_middle
    · simp only [step, hacquire]
      exact hfailed
  | remove | rename | makeDirectory | makeSymlink | makeLink | removeTree => cases hevent

/-- A step frees no lock that lasts until death. -/
lemma untilDeath_step (h : Holders) (directory : Bytes) (event : Event) :
    h.untilDeath ⊆ (h.step directory event).2.untilDeath := by
  have hletGo : ∀ (h : Holders) holder, (h.letGo holder).untilDeath = h.untilDeath := by
    intro h holder
    unfold Holders.letGo
    split <;> rfl
  have hchange : ∀ result, (h.change result).2.untilDeath = h.untilDeath := by
    intro result
    cases result <;> rfl
  cases event <;> simp only [step, hchange, List.Subset.refl]
  case acquire | untilDeath => split <;> simp [hletGo]
  case release | hold => split <;> simp [hletGo]

/-- In a sound state a level cannot be locked that conflicts with a lock that somebody holds. -/
lemma IsSound.refuses (hsound : IsSound directory [] h) {held : Held} (hheld : held ∈ h.locks)
    {level : Level} (hlevel : held.level.conflicts level) :
    ∃ failure after, acquire h.space directory level false = (.failed failure, after) ∧
      ∃ path, failure = .lockUnavailable path ∨ ∃ errno, failure = .lock path errno := by
  rcases hsound.acquire_cases level with ⟨inodes, after, -, htaken⟩ |
    ⟨failure, after, hacquire, -, hfailure⟩
  · have hpairwise := List.pairwise_cons.1 htaken.pairwise
    rw [Level.conflicts_comm] at hlevel
    exact absurd hlevel (hpairwise.1 held hheld)
  · exact ⟨failure, after, hacquire, hfailure⟩

/-! ### Runs -/

/-- The holders after events, whatever each of them came to. -/
def run (directory : Bytes) (h : Holders) (events : List Event) : Holders :=
  events.foldl (fun h event => (h.step directory event).2) h

/-- Events and then others are one run. -/
lemma run_append (directory : Bytes) (h : Holders) (events later : List Event) :
    h.run directory (events ++ later) = (h.run directory events).run directory later :=
  List.foldl_append

/-- Nobody holds anything at the start. -/
lemma start_isSound {files : Filesystem} (hfiles : files.IsGrounded) (directory : Bytes) :
    IsSound directory [] (start files) :=
  ⟨hfiles, List.nodup_nil, .refl _, List.nodup_nil, by simp [start, locks]⟩

/-- Every run of locking keeps a sound state sound. -/
lemma run_isSound (hsound : IsSound directory [] h) {events : List Event}
    (hevents : ∀ event ∈ events, event.isLocking) :
    IsSound directory [] (h.run directory events) := by
  induction events generalizing h with
  | nil => exact hsound
  | cons event events ih =>
    obtain ⟨hevent, hrest⟩ := List.forall_mem_cons.1 hevents
    exact ih (step_isSound hsound hevent) hrest

/-- A run frees no lock that lasts until death. -/
lemma untilDeath_run (h : Holders) (directory : Bytes) (events : List Event) :
    h.untilDeath ⊆ (h.run directory events).untilDeath := by
  induction events generalizing h with
  | nil => exact List.Subset.refl _
  | cons event events ih =>
    exact List.Subset.trans (untilDeath_step h directory event) (ih (h.step directory event).2)

/-- **Locks exclude each other in every run of locking.**  No two locks are ever held whose levels
conflict; a lock that its holder keeps until death is kept from then on; and as long as it is,
whoever wants a level that conflicts with it and does not wait is refused because of a lock. -/
theorem locks_exclude (files : Filesystem) (directory : Bytes) (events : List Event)
    (hfiles : files.IsGrounded) (hevents : ∀ event ∈ events, event.isLocking) :
    (((start files).run directory events).locks.Pairwise fun a b => ¬ a.level.conflicts b.level) ∧
    (∀ past holder later kept, events = past ++ .hold holder :: later →
      ((start files).run directory past).live.lookup holder = some kept →
      kept ∈ ((start files).run directory events).untilDeath) ∧
    ∀ kept ∈ ((start files).run directory events).untilDeath, ∀ level,
      kept.level.conflicts level →
      ∃ failure, (∃ path, failure = .lockUnavailable path ∨ ∃ errno, failure = .lock path errno) ∧
        (((start files).run directory events).step directory (.untilDeath level false)).1 =
          .failed failure ∧
        ∀ holder, (((start files).run directory events).step directory
          (.acquire level holder false)).1 = .failed failure := by
  have hsound := run_isSound (start_isSound hfiles directory) hevents
  refine ⟨hsound.pairwise, fun past holder later kept hsplit hkept => ?_,
    fun kept hkept level hlevel => ?_⟩
  · rw [hsplit, run_append]
    refine untilDeath_run _ directory later ?_
    simp [step, hkept]
  · obtain ⟨failure, after, hacquire, hfailure⟩ :=
      hsound.refuses (List.mem_append_right _ hkept) hlevel
    exact ⟨failure, hfailure, by simp [step, hacquire], fun holder => by simp [step, hacquire]⟩

/-- A container without lock files, whose run lock is a dangling link to a file outside of it. -/
def danglingLock : Filesystem where
  nodes := #[.directory 0 [("ct", 1), ("var", 3)], .directory 0 [("run.lock", 2)],
    .symlink "/var/run.lock", .directory 0 []]
  here := 0

/-- The full lock is given up halfway, for the configuration lock that somebody holds; then it is
taken and kept. -/
def fullLockKept : List Event :=
  [.acquire .config "a" false, .acquire .full "b" false, .release "a", .acquire .full "b" false,
    .hold "b"]

/-- Nobody gets the run lock of that container any more. -/
theorem locks_exclude_fullLockKept :
    danglingLock.IsGrounded ∧ (∀ event ∈ fullLockKept, event.isLocking) ∧
      ((start danglingLock).run "/ct" fullLockKept).untilDeath = [⟨.full, [1, 5, 6, 4]⟩] ∧
      ∃ failure, (∃ path, failure = .lockUnavailable path ∨ ∃ errno, failure = .lock path errno) ∧
        (((start danglingLock).run "/ct" fullLockKept).step "/ct" (.acquire .run "c" false)).1 =
          .failed failure := by
  have hkept : ((start danglingLock).run "/ct" fullLockKept).untilDeath =
      [⟨.full, [1, 5, 6, 4]⟩] := by decide
  obtain ⟨-, -, hrefused⟩ :=
    locks_exclude danglingLock "/ct" fullLockKept (by decide) (by decide)
  obtain ⟨failure, hfailure, -, hacquire⟩ :=
    hrefused ⟨.full, [1, 5, 6, 4]⟩ (by rw [hkept]; exact List.mem_singleton_self _) .run rfl
  exact ⟨by decide, by decide, hkept, failure, hfailure, hacquire "c"⟩

end Holders

end ContainerEntry.Lock
