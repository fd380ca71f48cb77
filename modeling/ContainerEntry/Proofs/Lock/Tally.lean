import Mathlib
import ContainerEntry.Proofs.Lock.Exclusion

/-!
# What is held is locked

Callers that wait, and files that are moved and removed, break the invariant by which locks exclude
each other: a lock file may lead elsewhere by now, and a caller that waits keeps inodes that belong to
no lock yet.  What survives all of that is the tally: every inode of every lock that somebody holds is
locked, once for each lock.

* **An acquisition keeps the tally** (`subperm_advance`), whatever it comes to: what it gives up it
  has locked itself.
* **Every event on every directory keeps it** (`isTallied_step`).

So a lock that is kept until death stays locked, whatever others do.
-/

namespace ContainerEntry.Lock

/-- What an acquisition holds. -/
def Outcome.held : Outcome → List Inode
  | .acquired held => held
  | .failed _ => []
  | .waiting held _ _ => held

/-! ### Tables of locks -/

/-- Freeing some inodes leaves the others locked. -/
lemma subperm_foldl_erase {locked inodes others : List Inode}
    (h : (inodes ++ others).Subperm locked) : others.Subperm (inodes.foldl List.erase locked) := by
  induction inodes generalizing locked with
  | nil => exact h
  | cons i inodes ih =>
    have herase := h.erase i
    rw [List.cons_append, List.erase_cons_head] at herase
    exact ih herase

/-- What an acquisition holds in the end is locked, and so is what others had locked. -/
lemma subperm_advance (wait : Bool) {space : Space} {held others : List Inode}
    (targets : List Target) (h : (held ++ others).Subperm space.locked) :
    ((advance wait space held targets).1.held ++ others).Subperm
      (advance wait space held targets).2.locked := by
  induction targets generalizing space held with
  | nil => exact h
  | cons target targets ih =>
    rw [advance]
    cases hopen : space.openTarget target with
    | error fault => exact subperm_foldl_erase h
    | ok result =>
      obtain ⟨i, opened⟩ := result
      have hopened : (held ++ others).Subperm opened.locked := by rwa [openTarget_locked hopen]
      simp only
      split_ifs
      · exact hopened
      · exact subperm_foldl_erase hopened
      · refine ih ?_
        rw [List.append_assoc]
        exact List.perm_middle.subperm.trans ((List.subperm_cons i).2 hopened)

/-- A lock that is looked up is there besides those of other names. -/
lemma subperm_of_lookup {live : List (Bytes × Held)} {holder : Bytes} {held : Held}
    (h : live.lookup holder = some held) :
    (held :: (live.filter (·.1 != holder)).map (·.2)).Subperm (live.map (·.2)) := by
  induction live with
  | nil => cases h
  | cons first live ih =>
    obtain ⟨name, other⟩ := first
    by_cases heq : holder = name
    · subst heq
      rw [List.lookup_cons_self] at h
      cases h
      rw [List.filter_cons_of_neg (by simp)]
      exact (List.subperm_cons _).2 (List.filter_sublist.map _).subperm
    · rw [List.lookup_cons, beq_eq_false_iff_ne.2 heq] at h
      rw [List.filter_cons_of_pos (by simpa using Ne.symm heq)]
      exact (List.Perm.swap _ _ _).subperm.trans ((List.subperm_cons _).2 (ih h))

/-- Fewer locks have fewer inodes. -/
lemma subperm_inodes {few many : List Held} (h : few.Subperm many) :
    (few.flatMap Held.inodes).Subperm (many.flatMap Held.inodes) := by
  obtain ⟨kept, hperm, hsublist⟩ := h
  exact (hperm.symm.flatMap_right _).subperm.trans (hsublist.flatMap _).subperm

namespace Holders

/-- Every inode of every lock is locked, once for each of them, and so are others that have just been
taken. -/
def IsTallied (taken : List Inode) (h : Holders) : Prop :=
  (taken ++ h.locks.flatMap Held.inodes).Subperm h.space.locked

variable {taken : List Inode} {h : Holders}

/-- Nobody holds anything at the start. -/
lemma isTallied_start (files : Filesystem) : (start files).IsTallied [] := .refl _

/-- Letting a lock go keeps the tally. -/
lemma IsTallied.letGo (htally : h.IsTallied taken) (holder : Bytes) :
    (h.letGo holder).IsTallied taken := by
  unfold Holders.letGo
  cases hlookup : h.live.lookup holder with
  | none => exact htally
  | some held =>
    have hlive : (held :: ((h.live.filter (·.1 != holder)).map (·.2) ++ h.untilDeath)).Subperm
        h.locks :=
      (List.subperm_append_right h.untilDeath).2 (subperm_of_lookup hlookup)
    have hinodes := (List.subperm_append_left taken).2 (subperm_inodes hlive)
    rw [List.flatMap_cons] at hinodes
    have hfirst := (List.perm_append_comm_assoc held.inodes taken _).subperm.trans hinodes
    exact subperm_foldl_erase (hfirst.trans htally)

/-- An acquisition keeps the tally of the others, and adds what it has taken. -/
lemma IsTallied.acquire (htally : h.IsTallied []) (directory : Bytes) (level : Level) (wait : Bool)
    {outcome : Outcome} {space : Space}
    (hacquire : acquire h.space directory level wait = (outcome, space)) :
    IsTallied outcome.held { h with space := space } := by
  have hadvance := subperm_advance wait (level.targets directory) htally
  rw [Lock.acquire] at hacquire
  rw [hacquire] at hadvance
  exact hadvance

/-- What has been taken need not be told. -/
lemma IsTallied.forget (htally : h.IsTallied taken) : h.IsTallied [] :=
  (List.sublist_append_right taken _).subperm.trans htally

/-- A change to the files keeps the tally. -/
lemma IsTallied.change (htally : h.IsTallied []) (result : Except Errno Filesystem) :
    (h.change result).2.IsTallied [] := by
  cases result <;> exact htally

/-- **Every event on a directory keeps the tally.** -/
lemma isTallied_step (htally : h.IsTallied []) (directory : Bytes) (event : Event) :
    (h.step directory event).2.IsTallied [] := by
  cases event with
  | acquire level holder wait =>
    simp only [step]
    rcases hacquire : Lock.acquire h.space directory level wait with
      ⟨inodes | failure | ⟨held, i, rest⟩, space⟩
    · exact (htally.acquire directory level wait hacquire).letGo holder
    · exact (htally.acquire directory level wait hacquire).forget
    · exact (htally.acquire directory level wait hacquire).forget
  | release holder =>
    simp only [step]
    cases h.live.lookup holder with
    | none => exact htally
    | some held => exact htally.letGo holder
  | hold holder =>
    simp only [step]
    cases hlookup : h.live.lookup holder with
    | none => exact htally
    | some held =>
      have hlocks := (List.subperm_append_right h.untilDeath).2 (subperm_of_lookup hlookup)
      exact (subperm_inodes (List.perm_middle.subperm.trans hlocks)).trans htally
  | untilDeath level wait =>
    simp only [step]
    rcases hacquire : Lock.acquire h.space directory level wait with
      ⟨inodes | failure | ⟨held, i, rest⟩, space⟩
    · have htaken := htally.acquire directory level wait hacquire
      have hmiddle : ((h.live.map (·.2) ++ ⟨level, inodes⟩ :: h.untilDeath).flatMap
          Held.inodes).Subperm (inodes ++ h.locks.flatMap Held.inodes) :=
        subperm_inodes List.perm_middle.subperm
      exact hmiddle.trans htaken
    · exact (htally.acquire directory level wait hacquire).forget
    · exact (htally.acquire directory level wait hacquire).forget
  | remove | rename | makeDirectory | makeSymlink | makeLink | removeTree => exact htally.change _

/-- The inodes of a lock that is kept until death are locked. -/
lemma IsTallied.mem_locked (htally : h.IsTallied []) {held : Held} (hheld : held ∈ h.untilDeath)
    {i : Inode} (hi : i ∈ held.inodes) : i ∈ h.space.locked := by
  refine htally.subset (List.mem_flatMap.2 ⟨held, ?_, hi⟩)
  exact List.mem_append_right _ hheld

end Holders

end ContainerEntry.Lock
