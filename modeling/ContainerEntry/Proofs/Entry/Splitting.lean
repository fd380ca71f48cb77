import Mathlib
import ContainerEntry.Proofs.Entry.Assignments

/-!
# The one way to split words

Nothing marks where the assignments of a request end and its command begins.  Still the split is no
choice of the reader's: there is one way at most to take words for assignments up to a word that is
none, and the reader finds it if there is one.

* **A word is an assignment** if the text before its first equals sign is there and has no slash
  (`Assigns`, `isAssignment_iff`); its name and value are given by that, and they give the word.
* **A split** (`IsSplit`) writes out as the words, and its command starts with a word that is no
  assignment.  The reader's split is one (`separates_splitAssignments`), and every split is the
  reader's (`splitAssignments_of_separates`).

`splits_uniquely` says this of all words, with a marker in front of them or without.
-/

namespace ContainerEntry.Entry

open Bytes Spec

variable {word name value : Bytes} {words command : List Bytes} {vars : List (Bytes × Bytes)}

/-! ### Assignments -/

/-- A word that assigns a value to a name. -/
structure Assigns (word name value : Bytes) : Prop where
  /-- There is an equals sign between name and value. -/
  word_eq : word = name ++ equals :: value
  /-- It is the first of the word. -/
  equals_notMem : equals ∉ name
  /-- There is a name. -/
  name_ne_nil : name ≠ []
  /-- The name has no slash, which would make the word a path. -/
  slash_notMem : slash ∉ name

/-- A text can be the name of a variable if it is not empty and has neither of the signs. -/
lemma isVariable_iff : IsVariable name ↔ name ≠ [] ∧ equals ∉ name ∧ slash ∉ name := by
  have hname : isName name = true ↔ name ≠ [] ∧ slash ∉ name := by simp [isName]
  rw [IsVariable, hname]
  tauto

/-- A word is read as the assignment that it is. -/
lemma asAssignment?_eq_some_iff {v : Bytes × Bytes} :
    asAssignment? word = some v ↔ Assigns word v.1 v.2 := by
  constructor
  · intro h
    obtain ⟨w, hcut, hw⟩ := Option.bind_eq_some_iff.1 h
    split_ifs at hw with hname
    cases hw
    obtain ⟨hword, hequals⟩ := eq_of_cut hcut
    obtain ⟨hne, -, hslash⟩ := isVariable_iff.1 ⟨hname, hequals⟩
    exact ⟨hword, hequals, hne, hslash⟩
  · rintro ⟨rfl, hequals, hne, hslash⟩
    exact asAssignment?_assignment (isVariable_iff.2 ⟨hne, hequals, hslash⟩)

/-- A word is taken for an assignment if it is one. -/
lemma isAssignment_iff : isAssignment word = true ↔ ∃ name value, Assigns word name value := by
  rw [isAssignment, Option.isSome_iff_exists]
  simp only [asAssignment?_eq_some_iff, Prod.exists]

/-! ### Splits -/

/-- Words that are assignments and, behind them, a command that does not start with one. -/
structure Separates (words : List Bytes) (vars : List (Bytes × Bytes)) (command : List Bytes) :
    Prop where
  /-- Each name can be the name of a variable. -/
  names : ∀ v ∈ vars, IsVariable v.1
  /-- The variables written out and the command are the words. -/
  written : vars.map assignment ++ command = words
  /-- The command's first word is no assignment. -/
  head : ∀ word ∈ command.head?, isAssignment word = false

/-- **The reader separates assignments and command.** -/
lemma separates_splitAssignments (words : List Bytes) :
    Separates words (splitAssignments words).1 (splitAssignments words).2 := by
  induction words with
  | nil => exact ⟨by simp [splitAssignments], rfl, by simp [splitAssignments]⟩
  | cons word words ih =>
    rw [splitAssignments]
    cases hword : asAssignment? word with
    | none =>
      refine ⟨by simp, rfl, ?_⟩
      simp [isAssignment, hword]
    | some v =>
      obtain ⟨heq, hequals, hne, hslash⟩ := asAssignment?_eq_some_iff.1 hword
      have hv : IsVariable v.1 := isVariable_iff.2 ⟨hne, hequals, hslash⟩
      refine ⟨List.forall_mem_cons.2 ⟨hv, ih.names⟩, ?_, ih.head⟩
      rw [List.map_cons, List.cons_append, ih.written, assignment, ← heq]

/-- **However assignments and command are separated, the reader does it so.** -/
lemma splitAssignments_of_separates (h : Separates words vars command) :
    splitAssignments words = (vars, command) := by
  rw [← h.written, splitAssignments_append h.names]
  cases command with
  | nil => simp
  | cons word rest =>
    -- The command keeps all of its words, because the first stops the reader.
    have hword : isAssignment word = false := h.head word rfl
    simp [hword]

/-- Words without a marker in front. -/
def unmarked (words : List Bytes) : List Bytes :=
  if words.head? = some (ofString "env") then words.tail else words

/-- One marker is left out, and only in front. -/
lemma dropMarker_eq (words : List Bytes) : dropMarker words = unmarked words := by
  cases words with
  | nil => rfl
  | cons word rest =>
    have hhead : (word :: rest).head? = some (ofString "env") ↔ word = marker := Option.some_inj
    rw [dropMarker, unmarked, List.tail_cons]
    simp only [hhead]

/-- A split of words into variables and a command. -/
structure IsSplit (words : List Bytes) (vars : List (Bytes × Bytes)) (command : List Bytes) :
    Prop where
  /-- Each name is there and has neither an equals sign nor a slash. -/
  names : ∀ v ∈ vars, v.1 ≠ [] ∧ equals ∉ v.1 ∧ slash ∉ v.1
  /-- The variables written out, and the command behind them, are the words. -/
  written : vars.map (fun v => v.1 ++ equals :: v.2) ++ command = words
  /-- The command starts with a word that is no assignment. -/
  starts : ∃ word rest, command = word :: rest ∧ ¬ ∃ name value, Assigns word name value

/-- A split is what separates assignments from a command that is there. -/
lemma isSplit_iff : IsSplit words vars command ↔ Separates words vars command ∧ command ≠ [] := by
  constructor
  · rintro ⟨hnames, hwritten, word, rest, rfl, hword⟩
    have hnot : isAssignment word = false := by
      rwa [← isAssignment_iff, Bool.not_eq_true] at hword
    refine ⟨⟨fun v hv => isVariable_iff.2 (hnames v hv), hwritten, ?_⟩, List.cons_ne_nil word rest⟩
    simpa using hnot
  · rintro ⟨⟨hnames, hwritten, hhead⟩, hne⟩
    obtain ⟨word, rest, rfl⟩ := List.exists_cons_of_ne_nil hne
    refine ⟨fun v hv => isVariable_iff.1 (hnames v hv), hwritten, word, rest, rfl, ?_⟩
    rw [← isAssignment_iff, hhead word rfl]
    exact Bool.false_ne_true

/-- The reader's split of the words behind the marker, if there is a command. -/
lemma splitEnviron_eq (words : List Bytes) :
    splitEnviron words =
      if (splitAssignments (unmarked words)).2 = [] then .error missingCommand
      else .ok (splitAssignments (unmarked words)) := by
  rw [splitEnviron, dropMarker_eq]
  obtain ⟨vars, command⟩ := splitAssignments (unmarked words)
  cases command <;> rfl

/-- **The reader finds the split**, and gives nothing else. -/
lemma splitEnviron_eq_ok_iff :
    splitEnviron words = .ok (vars, command) ↔ IsSplit (unmarked words) vars command := by
  rw [isSplit_iff, splitEnviron_eq]
  constructor
  · intro h
    have hseparates := separates_splitAssignments (unmarked words)
    split_ifs at h with hnone
    rw [Except.ok.inj h] at hseparates hnone
    exact ⟨hseparates, hnone⟩
  · rintro ⟨hseparates, hne⟩
    rw [splitAssignments_of_separates hseparates, if_neg hne]

/-- Only words that are all assignments have no split, and then the command is missing. -/
lemma splitEnviron_eq_error_iff {failure : Failure} :
    splitEnviron words = .error failure ↔
      failure = missingCommand ∧
        ∀ word ∈ unmarked words, ∃ name value, Assigns word name value := by
  have hnone : (splitAssignments (unmarked words)).2 = [] ↔
      ∀ word ∈ unmarked words, ∃ name value, Assigns word name value := by
    simp only [splitAssignments_eq, List.dropWhile_eq_nil_iff, isAssignment_iff]
  rw [splitEnviron_eq, ← hnone]
  split_ifs with hempty
  · simp [hempty, eq_comm]
  · simp [hempty]

/-- A list of words has one split at most. -/
lemma IsSplit.unique {vars' : List (Bytes × Bytes)} {command' : List Bytes}
    (h : IsSplit words vars command) (h' : IsSplit words vars' command') :
    vars' = vars ∧ command' = command := by
  have hsplit := splitAssignments_of_separates (isSplit_iff.1 h).1
  have hsplit' := splitAssignments_of_separates (isSplit_iff.1 h').1
  exact Prod.mk.inj (hsplit'.symm.trans hsplit)

/-- **Words have one split into assignments and a command, and it is found.**  For every list of
words, without the word `env` if that is the first,

* they are split if and only if some word is no assignment, and otherwise the failure says that the
  command is missing;
* what is given is a split: its names are not empty and have no equals sign and no slash, its
  assignments written out and its command are the words, and its command starts with a word that is
  no assignment; and
* there is no other split. -/
theorem splits_uniquely (words : List Bytes) :
    ((∃ split, splitEnviron words = .ok split) ↔
      ∃ word ∈ unmarked words, ¬ ∃ name value, Assigns word name value) ∧
    (∀ failure, splitEnviron words = .error failure → failure = missingCommand) ∧
    ∀ vars command, splitEnviron words = .ok (vars, command) →
      IsSplit (unmarked words) vars command ∧
        ∀ vars' command', IsSplit (unmarked words) vars' command' →
          vars' = vars ∧ command' = command := by
  refine ⟨?_, fun failure hfailure => (splitEnviron_eq_error_iff.1 hfailure).1, ?_⟩
  · cases hsplit : splitEnviron words with
    | error failure =>
      obtain ⟨-, hall⟩ := splitEnviron_eq_error_iff.1 hsplit
      refine iff_of_false (by simp) ?_
      rintro ⟨word, hword, hnot⟩
      exact hnot (hall word hword)
    | ok split =>
      refine iff_of_true ⟨split, rfl⟩ ?_
      by_contra hnone
      push Not at hnone
      have herror := splitEnviron_eq_error_iff.2 ⟨rfl, hnone⟩
      rw [hsplit] at herror
      cases herror
  · intro vars command hsplit
    have his := splitEnviron_eq_ok_iff.1 hsplit
    exact ⟨his, fun vars' command' his' => his.unique his'⟩

/-- A second marker is the command, and a value may be empty or have equals signs of its own. -/
theorem splits_uniquely_secondMarker :
    splitEnviron ["env", "A=b=c", "B=", "env", "C=1"] =
        .ok ([("A", "b=c"), ("B", "")], ["env", "C=1"]) ∧
      IsSplit ["A=b=c", "B=", "env", "C=1"] [("A", "b=c"), ("B", "")] ["env", "C=1"] ∧
      ∀ vars command, IsSplit ["A=b=c", "B=", "env", "C=1"] vars command →
        vars = [(ofString "A", ofString "b=c"), (ofString "B", ofString "")] ∧
          command = [ofString "env", ofString "C=1"] := by
  obtain ⟨-, -, hsplit⟩ := splits_uniquely ["env", "A=b=c", "B=", "env", "C=1"]
  have hgiven : splitEnviron ["env", "A=b=c", "B=", "env", "C=1"] =
      .ok ([("A", "b=c"), ("B", "")], ["env", "C=1"]) := by rfl
  exact ⟨hgiven, hsplit _ _ hgiven⟩

end ContainerEntry.Entry
