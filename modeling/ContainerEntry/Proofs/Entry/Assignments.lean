import Mathlib
import ContainerEntry.Entry.Request
import ContainerEntry.Entry.Spec
import ContainerEntry.Proofs.Basic

/-!
# Assignments in front of a command

The words of a request carry assignments and then a command, with nothing between them.  So what is
taken for assignments is the longest prefix of words that look like them, and a command whose first
words look like assignments loses them.

* **An assignment that is written is read back** (`asAssignment?_assignment`).
* **The split is at the first word that is no assignment** (`splitAssignments_eq`), so assignments
  in front of words go in front of those that the words begin with (`splitEnviron_assignments`).
-/

namespace ContainerEntry.Entry

open Bytes Spec

/-- Whether a word is an assignment. -/
def isAssignment (word : Bytes) : Bool := (asAssignment? word).isSome

/-- Whether a text can be the name of a variable that goes along: what it is read back as must not
end at an equals sign of its own. -/
def IsVariable (name : Bytes) : Prop := isName name ∧ equals ∉ name

instance (name : Bytes) : Decidable (IsVariable name) :=
  inferInstanceAs (Decidable (isName name ∧ equals ∉ name))

/-- An assignment that is written is read back. -/
lemma asAssignment?_assignment {v : Bytes × Bytes} (hv : IsVariable v.1) :
    asAssignment? (assignment v) = some v := by
  obtain ⟨hname, hequals⟩ := hv
  rw [asAssignment?, assignment, cut_append hequals v.2, Option.bind_some, if_pos hname]

/-- A word whose first byte is a slash is no assignment. -/
lemma isAssignment_slash (rest : Bytes) : isAssignment (slash :: rest) = false := by
  unfold isAssignment asAssignment?
  cases hcut : cut equals (slash :: rest) with
  | none => rfl
  | some v =>
    obtain ⟨before, after⟩ := v
    obtain ⟨heq, -⟩ := eq_of_cut hcut
    have hslash : slash ∈ before ∨ before = [] := by
      cases before with
      | nil => exact .inr rfl
      | cons b before =>
        cases heq
        exact .inl List.mem_cons_self
    have hname : isName before = false := by
      rcases hslash with hslash | rfl
      · simp [isName, hslash]
      · rfl
    simp [hname]

/-- Words are split at the first that is no assignment. -/
lemma splitAssignments_eq (words : List Bytes) :
    splitAssignments words =
      ((words.takeWhile isAssignment).filterMap asAssignment?, words.dropWhile isAssignment) := by
  induction words with
  | nil => rfl
  | cons word words ih =>
    unfold splitAssignments
    cases hword : asAssignment? word with
    | none =>
      have hnot : isAssignment word = false := by rw [isAssignment, hword]; rfl
      simp [hnot]
    | some v =>
      have hassignment : isAssignment word = true := by rw [isAssignment, hword]; rfl
      simp [ih, hassignment, hword]

/-- Assignments in front of words are split off with those that the words begin with. -/
lemma splitAssignments_append {vars : List (Bytes × Bytes)} (hvars : ∀ v ∈ vars, IsVariable v.1)
    (words : List Bytes) :
    splitAssignments (vars.map assignment ++ words) =
      (vars ++ (words.takeWhile isAssignment).filterMap asAssignment?,
        words.dropWhile isAssignment) := by
  induction vars with
  | nil => exact splitAssignments_eq words
  | cons v vars ih =>
    obtain ⟨hv, hvars⟩ := List.forall_mem_cons.1 hvars
    rw [List.map_cons, List.cons_append, splitAssignments, asAssignment?_assignment hv]
    simp only [ih hvars, List.cons_append]

/-- Assignments behind the marker are split off with those that the words behind them begin with,
and it is an error if there is no word left. -/
lemma splitEnviron_assignments {vars : List (Bytes × Bytes)} (hvars : ∀ v ∈ vars, IsVariable v.1)
    (words : List Bytes) :
    splitEnviron (marker :: (vars.map assignment ++ words)) =
      if words.dropWhile isAssignment = [] then .error missingCommand
      else .ok (vars ++ (words.takeWhile isAssignment).filterMap asAssignment?,
        words.dropWhile isAssignment) := by
  rw [splitEnviron, dropMarker, if_pos rfl, splitAssignments_append hvars]
  cases words.dropWhile isAssignment with
  | nil => rfl
  | cons word rest => rfl

end ContainerEntry.Entry
