import Mathlib
import ContainerEntry.Lock.Acquire
import ContainerEntry.Proofs.Basic
import ContainerEntry.Proofs.Filesystem.Growth

/-!
# An acquisition takes everything or nothing

An acquisition that does not wait goes through its targets in order.  `Takes` says what "everything"
is: every target of a list can be opened and is free when its turn comes, the targets that the same
list has already taken counting as locked.

* **Every list of targets is taken, or stops at one** (`takes_or_stops`): from every space, either
  the whole list can be taken, or a first part of it can and the target behind that part cannot be
  opened or is locked.
* **The function follows the relation** (`advance_of_takes`, `advance_of_error`,
  `advance_of_mem_locked`), so there are three things that an acquisition can come to
  (`acquire_cases`).
* **What was locked is freed exactly** (`foldl_erase_reverse_append`): giving up restores the very
  list of locked inodes that there was.
* **Files are only created** (`Takes.creates`): the tree afterwards is the one before with an empty
  file at each vacant name that the path of an opened target led to, and at no other place.  Giving
  up removes no file.

`acquire_allOrNothing` puts these together.  It is about callers that do not wait; what waiting
callers do to each other is a matter of `Lock.Contention`.
-/

namespace ContainerEntry.Lock

open Bytes

/-! ### Opened targets -/

/-- A target is there and has this inode: opening it gives the inode and changes nothing. -/
def Target.LeadsTo (files : Filesystem) : Target → Inode → Prop
  | .file path, i => files.openOrCreate path sentinelMode = .ok (i, files)
  | .directory path, i => files.openExisting path = .ok i

/-- A target has one inode. -/
lemma Target.LeadsTo.unique {files : Filesystem} {target : Target} {i j : Inode}
    (hi : target.LeadsTo files i) (hj : target.LeadsTo files j) : i = j := by
  cases target with
  | file path =>
    cases hi.symm.trans hj
    rfl
  | directory path =>
    cases hi.symm.trans hj
    rfl

/-- A target keeps its inode however much the tree grows. -/
lemma Target.LeadsTo.grows {old new : Filesystem} {target : Target} {i : Inode}
    (hold : old.IsGrounded) (hgrows : old.Grows sentinelMode new) (h : target.LeadsTo old i) :
    target.LeadsTo new i := by
  cases target with
  | file path => exact Filesystem.openOrCreate_of_grows hold h hgrows
  | directory path => exact Filesystem.openExisting_of_grows hold h hgrows

/-- A lock file whose path led to a vacant name stands under this name once it is there. -/
lemma Target.LeadsTo.at?_of_vacant {old new : Filesystem} {path : Bytes} {place : Inode × Bytes}
    {i : Inode} (hold : old.IsGrounded) (hgrows : old.Grows sentinelMode new)
    (hvacant : old.resolve path .wantedFile = .ok (.vacant place.1 place.2 false))
    (h : Target.LeadsTo new (.file path) i) : new.at? ⟨place.1, place.2, false⟩ = some i := by
  obtain ⟨hfound, -⟩ := Filesystem.resolve_of_openOrCreate (hgrows.isGrounded hold) h
  have hrevisit := Filesystem.resolve_of_grows hgrows hold rfl hvacant
  rw [hfound, Filesystem.revisit] at hrevisit
  split at hrevisit
  · next j hat =>
    cases hrevisit
    exact hat
  · cases hrevisit

/-- A place where a lock file is missing: a name that its directory does not hold, and to which the
path of one of the targets leads. -/
def IsMissing (files : Filesystem) (targets : List Target) (place : Inode × Bytes) : Prop :=
  ∃ path, .file path ∈ targets ∧
    files.resolve path .wantedFile = .ok (.vacant place.1 place.2 false)

/-- What opening targets does to the files: the lock files that were missing are there, and nothing
else is different. -/
structure Creates (targets : List Target) (old new : Filesystem) : Prop where
  /-- The tree is the old one with an empty file at each place where a lock file was missing, and
  at no other. -/
  placed : ∃ places : List (Inode × Bytes), places.Nodup ∧
    (∀ place, place ∈ places ↔ IsMissing old targets place) ∧
    new = old.placeFiles sentinelMode places
  /-- Whatever existed is as it was, but for the names that directories gain. -/
  grows : old.Grows sentinelMode new
  /-- Every target is there. -/
  leadsTo : ∀ target ∈ targets, ∃ i, target.LeadsTo new i
  /-- What is new is what the path of a target leads to that led to a vacant name before. -/
  fresh : ∀ i, old.node? i = none → (new.node? i).isSome →
    ∃ (path : Bytes) (place : Inode × Bytes), .file path ∈ targets ∧
      old.resolve path .wantedFile = .ok (.vacant place.1 place.2 false) ∧
      Target.LeadsTo new (.file path) i

/-- Opening no target changes nothing. -/
lemma Creates.nil (files : Filesystem) : Creates [] files files where
  placed := ⟨[], .nil, by simp [IsMissing], rfl⟩
  grows := .refl _ files
  leadsTo := by simp
  fresh i hold hnew := by
    rw [hold] at hnew
    cases hnew

/-- What is missing for two lists of targets is missing for the first, or it still is for the second
when the lock files of the first have been created. -/
lemma Creates.isMissing_append_iff {targets targets' : List Target} {old mid : Filesystem}
    (hold : old.IsGrounded) (h : Creates targets old mid) {place : Inode × Bytes} :
    IsMissing old (targets ++ targets') place ↔
      IsMissing old targets place ∨ IsMissing mid targets' place := by
  constructor
  · rintro ⟨path, hpath, hvacant⟩
    rcases List.mem_append.1 hpath with hpath | hpath
    · exact .inl ⟨path, hpath, hvacant⟩
    have hmid := Filesystem.resolve_of_grows h.grows hold rfl hvacant
    rw [Filesystem.revisit] at hmid
    split at hmid
    · next i hfilled =>
      obtain ⟨places, -, hplaces, rfl⟩ := h.placed
      have hempty := Filesystem.at?_of_resolve_vacant hvacant
      exact .inl ((hplaces place).1 (Filesystem.mem_of_at?_placeFiles hfilled hempty))
    · exact .inr ⟨path, hpath, hmid⟩
  · rintro (⟨path, hpath, hvacant⟩ | ⟨path, hpath, hvacant⟩)
    · exact ⟨path, List.mem_append_left _ hpath, hvacant⟩
    · exact ⟨path, List.mem_append_right _ hpath,
        Filesystem.resolve_vacant_of_grows h.grows hold hvacant⟩

/-- Where a lock file has been created, none is missing any more. -/
lemma Creates.not_isMissing {targets targets' : List Target} {old mid : Filesystem}
    (hold : old.IsGrounded) (h : Creates targets old mid) {place : Inode × Bytes}
    (hmissing : IsMissing old targets place) : ¬ IsMissing mid targets' place := by
  rintro ⟨path', -, hvacant'⟩
  obtain ⟨path, hpath, hvacant⟩ := hmissing
  obtain ⟨i, hi⟩ := h.leadsTo _ hpath
  have hfilled := hi.at?_of_vacant hold h.grows hvacant
  cases hfilled.symm.trans (Filesystem.at?_of_resolve_vacant hvacant')

/-- Opening targets and then others is opening all of them. -/
lemma Creates.append {targets targets' : List Target} {old mid new : Filesystem}
    (hold : old.IsGrounded) (h : Creates targets old mid) (h' : Creates targets' mid new) :
    Creates (targets ++ targets') old new where
  placed := by
    obtain ⟨places, hnodup, hplaces, hmid⟩ := h.placed
    obtain ⟨places', hnodup', hplaces', hnew⟩ := h'.placed
    refine ⟨places ++ places', List.nodup_append.2 ⟨hnodup, hnodup', ?_⟩, fun place => ?_, ?_⟩
    · rintro place hplace _ hplace' rfl
      exact h.not_isMissing hold ((hplaces place).1 hplace) ((hplaces' place).1 hplace')
    · rw [List.mem_append, hplaces, hplaces', h.isMissing_append_iff hold]
    · rw [hnew, hmid, Filesystem.placeFiles_append]
  grows := h.grows.trans h'.grows
  leadsTo target htarget := by
    rcases List.mem_append.1 htarget with ht | ht
    · obtain ⟨i, hi⟩ := h.leadsTo target ht
      exact ⟨i, hi.grows (h.grows.isGrounded hold) h'.grows⟩
    · exact h'.leadsTo target ht
  fresh i hi hnew := by
    cases hmid : mid.node? i with
    | none =>
      obtain ⟨path, place, hpath, hvacant, hleads⟩ := h'.fresh i hmid hnew
      exact ⟨path, place, List.mem_append_right _ hpath,
        Filesystem.resolve_vacant_of_grows h.grows hold hvacant, hleads⟩
    | some node =>
      obtain ⟨path, place, hpath, hvacant, hleads⟩ := h.fresh i hi (by simp [hmid])
      exact ⟨path, place, List.mem_append_left _ hpath, hvacant,
        hleads.grows (h.grows.isGrounded hold) h'.grows⟩

/-- The targets can be opened one after another, and each is free when its turn comes; `inodes` are
their inodes, and the last space is the one in which all of them are locked. -/
inductive Takes : Space → List Target → List Inode → Space → Prop where
  /-- There is no target left. -/
  | nil {space : Space} : Takes space [] [] space
  /-- The first target is opened, free and locked, and the others are taken after it. -/
  | cons {space opened after : Space} {target : Target} {targets : List Target} {i : Inode}
      {inodes : List Inode} (hopen : space.openTarget target = .ok (i, opened))
      (hfree : i ∉ opened.locked) (next : Takes (opened.lock i) targets inodes after) :
      Takes space (target :: targets) (i :: inodes) after

variable {space opened before after : Space} {target : Target} {targets passed : List Target}
  {i : Inode} {inodes held : List Inode}

/-- Opening a lock file opens it, or creates it. -/
lemma openTarget_file {path : Bytes} (h : space.openTarget (.file path) = .ok (i, opened)) :
    space.files.openOrCreate path sentinelMode = .ok (i, opened.files) ∧
      opened.locked = space.locked := by
  obtain ⟨r, hopen, hr⟩ := exists_of_map_eq_ok h
  cases hr
  exact ⟨hopen, rfl⟩

/-- Opening a directory changes nothing. -/
lemma openTarget_directory {path : Bytes}
    (h : space.openTarget (.directory path) = .ok (i, opened)) :
    space.files.openExisting path = .ok i ∧ opened = space := by
  obtain ⟨r, hopen, hr⟩ := exists_of_map_eq_ok h
  cases hr
  exact ⟨hopen, rfl⟩

/-- Opening a target locks nothing. -/
lemma openTarget_locked (h : space.openTarget target = .ok (i, opened)) :
    opened.locked = space.locked := by
  cases target with
  | file path => exact (openTarget_file h).2
  | directory path => rw [(openTarget_directory h).2]

/-- An opened target is there. -/
lemma leadsTo_of_openTarget (hspace : space.files.IsGrounded)
    (h : space.openTarget target = .ok (i, opened)) : target.LeadsTo opened.files i := by
  cases target with
  | file path => exact Filesystem.openOrCreate_of_grows hspace (openTarget_file h).1 (.refl _ _)
  | directory path =>
    obtain ⟨hopen, rfl⟩ := openTarget_directory h
    exact hopen

/-- Opening a target creates the target, if it was missing, and nothing else. -/
lemma creates_of_openTarget (hspace : space.files.IsGrounded)
    (h : space.openTarget target = .ok (i, opened)) :
    Creates [target] space.files opened.files := by
  have hleads := leadsTo_of_openTarget hspace h
  have hall : ∀ t ∈ [target], ∃ j, t.LeadsTo opened.files j := by simpa using ⟨i, hleads⟩
  cases target with
  | file path =>
    obtain ⟨hopen, -⟩ := openTarget_file h
    obtain ⟨places, hnodup, hplaces, hnew⟩ := Filesystem.openOrCreate_placeFiles hopen
    refine ⟨⟨places, hnodup, fun place => ?_, hnew⟩, Filesystem.openOrCreate_grows hopen, hall,
      fun j hj hsome => ?_⟩
    · simp [hplaces, IsMissing]
    · obtain ⟨rfl, directory, name, hr⟩ := Filesystem.eq_of_openOrCreate_new hopen hj hsome
      exact ⟨path, (directory, name), List.mem_singleton_self _, hr, hleads⟩
  | directory path =>
    obtain ⟨-, rfl⟩ := openTarget_directory h
    refine ⟨⟨[], .nil, by simp [IsMissing], rfl⟩, .refl _ _, hall, fun j hj hsome => ?_⟩
    rw [hj] at hsome
    cases hsome

/-! ### Targets that are all free -/

namespace Takes

/-- The inodes are locked on top of those that were. -/
lemma locked_eq (h : Takes space targets inodes after) :
    after.locked = inodes.reverse ++ space.locked := by
  induction h with
  | nil => rfl
  | cons hopen _ _ ih => simp [ih, Space.lock, openTarget_locked hopen]

/-- The inodes are different, and none of them was locked. -/
lemma nodup (h : Takes space targets inodes after) :
    inodes.Nodup ∧ ∀ i ∈ inodes, i ∉ space.locked := by
  induction h with
  | nil => simp
  | @cons space opened _ _ _ i _ hopen hfree _ ih =>
    have hlocked : (opened.lock i).locked = i :: space.locked := by
      rw [Space.lock, openTarget_locked hopen]
    rw [hlocked] at ih
    rw [openTarget_locked hopen] at hfree
    obtain ⟨hnodup, hnew⟩ := ih
    refine ⟨List.nodup_cons.2 ⟨fun hi => hnew i hi List.mem_cons_self, hnodup⟩, fun j hj => ?_⟩
    rcases List.mem_cons.1 hj with rfl | hj
    · exact hfree
    · exact fun hlocked => hnew j hj (List.mem_cons_of_mem _ hlocked)

/-- Taking targets creates those that were missing, and nothing else. -/
lemma creates (h : Takes space targets inodes after) (hspace : space.files.IsGrounded) :
    Creates targets space.files after.files := by
  induction h with
  | nil => exact .nil _
  | @cons space opened after target targets i inodes hopen _ _ ih =>
    have hfirst := creates_of_openTarget hspace hopen
    exact hfirst.append hspace (ih (hfirst.grows.isGrounded hspace))

/-- Each target has its inode afterwards. -/
lemma leadsTo (h : Takes space targets inodes after) (hspace : space.files.IsGrounded) :
    List.Forall₂ (Target.LeadsTo after.files) targets inodes := by
  induction h with
  | nil => exact .nil
  | @cons space opened after target targets i inodes hopen _ next ih =>
    have hgrounded := (creates_of_openTarget hspace hopen).grows.isGrounded hspace
    have hfirst := leadsTo_of_openTarget hspace hopen
    exact .cons (hfirst.grows hgrounded (next.creates hgrounded).grows)
      (ih hgrounded)

end Takes

/-- Every list of targets can be taken, or a first part of it, and the target behind that part
cannot be opened or is locked. -/
lemma takes_or_stops (space : Space) (targets : List Target) :
    (∃ inodes after, Takes space targets inodes after) ∨
      ∃ passed target rest inodes before, targets = passed ++ target :: rest ∧
        Takes space passed inodes before ∧
        ((∃ fault, before.openTarget target = .error fault) ∨
          ∃ i opened, before.openTarget target = .ok (i, opened) ∧ i ∈ opened.locked) := by
  induction targets generalizing space with
  | nil => exact .inl ⟨[], space, .nil⟩
  | cons target targets ih =>
    cases hopen : space.openTarget target with
    | error fault => exact .inr ⟨[], target, targets, [], space, rfl, .nil, .inl ⟨fault, hopen⟩⟩
    | ok r =>
      obtain ⟨i, opened⟩ := r
      by_cases hlocked : i ∈ opened.locked
      · exact .inr ⟨[], target, targets, [], space, rfl, .nil, .inr ⟨i, opened, hopen, hlocked⟩⟩
      rcases ih (opened.lock i) with ⟨inodes, after, h⟩ |
        ⟨passed, next, rest, inodes, before, rfl, h, hstop⟩
      · exact .inl ⟨i :: inodes, after, .cons hopen hlocked h⟩
      · exact .inr ⟨target :: passed, next, rest, i :: inodes, before, rfl,
          .cons hopen hlocked h, hstop⟩

/-! ### The function -/

/-- Locking goes past targets that are taken. -/
lemma advance_of_takes (wait : Bool) (h : Takes space passed inodes before) (held : List Inode)
    (rest : List Target) :
    advance wait space held (passed ++ rest) = advance wait before (held ++ inodes) rest := by
  induction h generalizing held with
  | nil => simp
  | cons hopen hfree _ ih =>
    rw [List.cons_append, advance, hopen]
    simp [hfree, ih]

/-- Locking is given up at a target that cannot be opened. -/
lemma advance_of_error {fault : Fault} (h : space.openTarget target = .error fault)
    (held : List Inode) (rest : List Target) :
    advance wait space held (target :: rest) =
      (.failed (.lock target.path (fault.errno?.getD .ioError)), space.free held) := by
  rw [advance, h]

/-- Locking is given up at a target that is locked, by a caller that does not wait. -/
lemma advance_of_mem_locked (h : space.openTarget target = .ok (i, opened))
    (hlocked : i ∈ opened.locked) (held : List Inode) (rest : List Target) :
    advance false space held (target :: rest) =
      (.failed (.lockUnavailable target.path), opened.free held) := by
  rw [advance, h]
  simp [hlocked]

/-- Freeing what was locked last, first the first, leaves what was locked before. -/
lemma foldl_erase_reverse_append (h : inodes.Nodup) (locked : List Inode) :
    inodes.foldl List.erase (inodes.reverse ++ locked) = locked := by
  induction inodes with
  | nil => rfl
  | cons i inodes ih =>
    obtain ⟨hi, hnodup⟩ := List.nodup_cons.1 h
    have herase : ((i :: inodes).reverse ++ locked).erase i = inodes.reverse ++ locked := by
      rw [List.reverse_cons, List.append_assoc, List.erase_append_right _ (by simpa using hi)]
      simp
    rw [List.foldl_cons, herase]
    exact ih hnodup

/-- Giving up after targets were taken frees them, and nothing else. -/
lemma free_of_takes (h : Takes space passed inodes before)
    (hafter : after.locked = before.locked) : (after.free inodes).locked = space.locked := by
  rw [Space.free, hafter, h.locked_eq]
  exact foldl_erase_reverse_append h.nodup.1 space.locked

/-- What an acquisition comes to that does not wait: it takes every target, or it is given up at the
first one that cannot be opened or is locked. -/
lemma acquire_cases (space : Space) (directory : Bytes) (level : Level) :
    (∃ inodes after, Takes space (level.targets directory) inodes after ∧
        acquire space directory level false = (.acquired inodes, after)) ∨
      ∃ passed target rest inodes before, level.targets directory = passed ++ target :: rest ∧
        Takes space passed inodes before ∧
        ((∃ fault, before.openTarget target = .error fault ∧
            acquire space directory level false =
              (.failed (.lock target.path (fault.errno?.getD .ioError)), before.free inodes)) ∨
          ∃ i opened, before.openTarget target = .ok (i, opened) ∧ i ∈ opened.locked ∧
            acquire space directory level false =
              (.failed (.lockUnavailable target.path), opened.free inodes)) := by
  unfold acquire
  rcases takes_or_stops space (level.targets directory) with ⟨inodes, after, h⟩ |
    ⟨passed, target, rest, inodes, before, htargets, h, hstop⟩
  · have hadvance := advance_of_takes false h [] []
    rw [List.append_nil, List.nil_append, advance] at hadvance
    exact .inl ⟨inodes, after, h, hadvance⟩
  · have hadvance := advance_of_takes false h [] (target :: rest)
    rw [← htargets, List.nil_append] at hadvance
    refine .inr ⟨passed, target, rest, inodes, before, htargets, h, ?_⟩
    rcases hstop with ⟨fault, hopen⟩ | ⟨i, opened, hopen, hlocked⟩
    · exact .inl ⟨fault, hopen, hadvance.trans (advance_of_error hopen _ _)⟩
    · have hgiven := hadvance.trans (advance_of_mem_locked hopen hlocked _ _)
      exact .inr ⟨i, opened, hopen, hlocked, hgiven⟩

/-! ### The statement -/

/-- What locking targets in order comes to, for a caller that does not wait: the outcome, and the
space that it leaves. -/
structure IsAllOrNothing (space : Space) (targets : List Target) (outcome : Outcome)
    (after : Space) : Prop where
  /-- It succeeds exactly when every target can be opened and is free in its turn. -/
  acquired_iff : (∃ held, outcome = .acquired held) ↔
    ∃ held later, Takes space targets held later
  /-- On success there is one lock for each target, on its inode and on top of the locks that were;
  the inodes are different and none of them was locked.  Missing targets have been created. -/
  acquired : ∀ held, outcome = .acquired held →
    List.Forall₂ (Target.LeadsTo after.files) targets held ∧
    after.locked = held.reverse ++ space.locked ∧
    held.Nodup ∧ (∀ i ∈ held, i ∉ space.locked) ∧
    Creates targets space.files after.files
  /-- Otherwise the locks are what they were.  The failure is that of the first target that cannot
  be opened, or whose inode is locked, be it by somebody else or for an earlier target; and the
  missing ones among the targets opened so far have been created. -/
  refused : (∀ held, outcome ≠ .acquired held) →
    after.locked = space.locked ∧
    ∃ passed target rest held before, targets = passed ++ target :: rest ∧
      Takes space passed held before ∧
      ((∃ fault, before.openTarget target = .error fault ∧
          outcome = .failed (.lock target.path (fault.errno?.getD .ioError)) ∧
          Creates passed space.files after.files) ∨
        ∃ i opened, before.openTarget target = .ok (i, opened) ∧ i ∈ held ++ space.locked ∧
          outcome = .failed (.lockUnavailable target.path) ∧
          Creates (passed ++ [target]) space.files after.files)

/-- Targets that are all free are all locked. -/
lemma isAllOrNothing_of_takes (hspace : space.files.IsGrounded)
    (h : Takes space targets inodes after) :
    IsAllOrNothing space targets (.acquired inodes) after where
  acquired_iff := iff_of_true ⟨inodes, rfl⟩ ⟨inodes, after, h⟩
  acquired held hheld := by
    cases hheld
    exact ⟨h.leadsTo hspace, h.locked_eq, h.nodup.1, h.nodup.2, h.creates hspace⟩
  refused hrefused := absurd rfl (hrefused inodes)

/-- Where an acquisition fails, the whole list cannot be taken. -/
lemma not_takes_of_failed {directory : Bytes} {level : Level} {failure : Failure}
    (h : acquire space directory level false = (.failed failure, after)) :
    ¬ ∃ held later, Takes space (level.targets directory) held later := by
  rintro ⟨held, later, htakes⟩
  have hadvance := advance_of_takes false htakes [] []
  rw [List.append_nil] at hadvance
  rw [acquire, hadvance] at h
  cases h

/-- **An acquisition that does not wait takes everything or nothing.** -/
theorem acquire_allOrNothing (space : Space) (directory : Bytes) (level : Level)
    (hspace : space.files.IsGrounded) :
    IsAllOrNothing space (level.targets directory) (acquire space directory level false).1
      (acquire space directory level false).2 := by
  rcases acquire_cases space directory level with ⟨inodes, after, h, hacquire⟩ |
    ⟨passed, target, rest, inodes, before, htargets, h, hstop⟩
  · rw [hacquire]
    exact isAllOrNothing_of_takes hspace h
  have hgrounded := (h.creates hspace).grows.isGrounded hspace
  rcases hstop with ⟨fault, hopen, hacquire⟩ | ⟨i, opened, hopen, hlocked, hacquire⟩
  · have hnot := not_takes_of_failed hacquire
    rw [hacquire]
    refine ⟨iff_of_false (by simp) hnot, by simp, fun _ => ⟨free_of_takes h rfl, ?_⟩⟩
    exact ⟨passed, target, rest, inodes, before, htargets, h,
      .inl ⟨fault, hopen, rfl, h.creates hspace⟩⟩
  · have hnot := not_takes_of_failed hacquire
    rw [hacquire]
    refine ⟨iff_of_false (by simp) hnot, by simp,
      fun _ => ⟨free_of_takes h (openTarget_locked hopen), ?_⟩⟩
    rw [openTarget_locked hopen, h.locked_eq, List.mem_append, List.mem_reverse,
      ← List.mem_append] at hlocked
    have hcreates : Creates (passed ++ [target]) space.files opened.files :=
      (h.creates hspace).append hspace (creates_of_openTarget hgrounded hopen)
    exact ⟨passed, target, rest, inodes, before, htargets, h,
      .inr ⟨i, opened, hopen, hlocked, rfl, hcreates⟩⟩

/-- A container whose run lock is a dangling link to its exports lock, with the configuration lock
held by somebody. -/
def linkedLocks : Space where
  files := {
    nodes := #[.directory 0 [("ct", 1)], .directory 0 [("run.lock", 2), ("config.lock", 3)],
      .symlink "exports.lock", .file [] sentinelMode]
    here := 0 }
  locked := [3]

/-- The full lock of such a container conflicts with itself: the file that is created for the run
lock is the exports lock too. -/
theorem acquire_linkedLocks :
    linkedLocks.files.IsGrounded ∧
      (acquire linkedLocks "/ct" .full false).1 = .failed (.lockUnavailable "/ct/exports.lock") ∧
      IsAllOrNothing linkedLocks (Level.full.targets "/ct")
        (acquire linkedLocks "/ct" .full false).1 (acquire linkedLocks "/ct" .full false).2 :=
  ⟨by decide, by decide, acquire_allOrNothing linkedLocks "/ct" .full (by decide)⟩

end ContainerEntry.Lock
