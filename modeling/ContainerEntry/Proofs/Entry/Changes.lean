import Mathlib
import ContainerEntry.Proofs.Entry.RoundTrip
import ContainerEntry.Proofs.Environ

/-!
# Entries that are built by changes

An entry starts plain and is changed step by step, in whatever order its maker learns things.  Each
change overwrites what it is about and leaves the rest alone, so of all that has been said of one
thing only the last counts (`changes_eq`).

* **Changes that agree on the last of each kind build the same entry** (`changes_eq_of_sameLast`),
  and so the words for the helper are the same.
* **A terminal comes with streams** in every entry that is built (`pty_changes`).
* **The variables ascend** in the words for the helper (`helperArgv_eq_front`), and they are the
  names with the values that were set last (`mem_environ_changes`).

`last_changes_decide` puts these together.
-/

namespace ContainerEntry.Entry

open Bytes Text

namespace Spec

/-! ### What changes say -/

/-- The terminal that a change asks for, with the streams on it. -/
def Change.terminal? : Change → Option (Bytes × Streams)
  | .pty path streams => some (path, streams)
  | .assign .. | .assignAll _ | .noReplay _ | .verbose _ | .command _ => none

/-- What a change says about the startup output. -/
def Change.noReplay? : Change → Option Bool
  | .noReplay flag => some flag
  | .pty .. | .assign .. | .assignAll _ | .verbose _ | .command _ => none

/-- What a change says about telling more. -/
def Change.verbose? : Change → Option Bool
  | .verbose flag => some flag
  | .pty .. | .assign .. | .assignAll _ | .noReplay _ | .command _ => none

/-- The words that a change asks to run. -/
def Change.command? : Change → Option (List Bytes)
  | .command words => some words
  | .pty .. | .assign .. | .assignAll _ | .noReplay _ | .verbose _ => none

/-- The variables that a change sets, in order. -/
def Change.vars : Change → List (Bytes × Bytes)
  | .assign name value => [(name, value)]
  | .assignAll vars => vars
  | .pty .. | .noReplay _ | .verbose _ | .command _ => []

/-- The last thing of a kind that changes say. -/
def lastOf {α : Type} (kind : Change → Option α) (all : List Change) : Option α :=
  (all.filterMap kind).getLast?

/-- The value that changes give a name last. -/
def lastValue? (all : List Change) (name : Bytes) : Option Bytes :=
  (all.flatMap Change.vars).reverse.lookup name

/-- Changes that agree on the last of each kind, and on the last value of each name. -/
structure SameLast (all other : List Change) : Prop where
  /-- The last terminal is the same. -/
  terminal : lastOf Change.terminal? all = lastOf Change.terminal? other
  /-- The last word on the startup output is the same. -/
  noReplay : lastOf Change.noReplay? all = lastOf Change.noReplay? other
  /-- The last word on telling more is the same. -/
  verbose : lastOf Change.verbose? all = lastOf Change.verbose? other
  /-- The last command is the same. -/
  command : lastOf Change.command? all = lastOf Change.command? other
  /-- Every name has the same last value. -/
  values : ∀ name, lastValue? all name = lastValue? other name

/-- What is said first counts if nothing of its kind is said behind it. -/
lemma lastOf_cons {α : Type} (kind : Change → Option α) (c : Change) (all : List Change) :
    lastOf kind (c :: all) = (lastOf kind all).or (kind c) := by
  unfold lastOf
  cases hc : kind c with
  | none => rw [List.filterMap_cons_none hc, Option.or_none]
  | some a =>
    rw [List.filterMap_cons_some hc, List.getLast?_cons]
    cases (all.filterMap kind).getLast? <;> rfl

/-! ### What they build -/

/-- **An entry that is built is what was said last**, and what it was where nothing was said. -/
lemma changes_eq (s : Spec) (all : List Change) :
    s.changes all =
      { pty := (lastOf Change.terminal? all).elim s.pty fun t =>
          if t.2.isEmpty then none else some t.1
        streams := (lastOf Change.terminal? all).elim s.streams fun t => t.2
        environ := s.environ.insertAll (all.flatMap Change.vars)
        uid := s.uid
        cwd := s.cwd
        noReplay := (lastOf Change.noReplay? all).getD s.noReplay
        verbose := (lastOf Change.verbose? all).getD s.verbose
        command := (lastOf Change.command? all).getD s.command } := by
  induction all generalizing s with
  | nil => rfl
  | cons c all ih =>
    have hstep : s.changes (c :: all) = (s.change c).changes all := rfl
    have hvars : s.environ.insertAll ((c :: all).flatMap Change.vars) =
        (s.environ.insertAll c.vars).insertAll (all.flatMap Change.vars) := by
      rw [List.flatMap_cons, Environ.insertAll, List.foldl_append]
      rfl
    rw [hstep, ih, hvars]
    simp only [lastOf_cons]
    -- What the first change says of its kind is what was there, for those behind it.
    cases c <;> simp only [Change.terminal?, Change.noReplay?, Change.verbose?, Change.command?,
      Option.or_none]
    case pty => cases lastOf Change.terminal? all <;> rfl
    case noReplay => cases lastOf Change.noReplay? all <;> rfl
    case verbose => cases lastOf Change.verbose? all <;> rfl
    case command => cases lastOf Change.command? all <;> rfl
    all_goals rfl

variable {all other : List Change}

/-- The variables that are set last are those that are there. -/
lemma get?_environ_changes (s : Spec) (all : List Change) (name : Bytes) :
    (s.changes all).environ.get? name = (lastValue? all name).or (s.environ.get? name) := by
  rw [changes_eq, Environ.get?_insertAll]
  rfl

/-- **Changes that agree on the last of each kind build the same entry**, whatever they start
from. -/
lemma changes_eq_of_sameLast (h : SameLast all other) (s : Spec) :
    s.changes other = s.changes all := by
  have henviron : s.environ.insertAll (other.flatMap Change.vars) =
      s.environ.insertAll (all.flatMap Change.vars) := by
    refine Environ.ext_get? fun name => ?_
    have hvalue := h.values name
    unfold lastValue? at hvalue
    rw [Environ.get?_insertAll, Environ.get?_insertAll, hvalue]
  rw [changes_eq, changes_eq, h.terminal, h.noReplay, h.verbose, h.command, henviron]

/-- The variables of an entry that is built are the names with the values that were set last. -/
lemma mem_environ_changes (uid : UInt32) (cwd : Bytes) (all : List Change) (name value : Bytes) :
    (name, value) ∈ ((plain uid cwd).changes all).environ.toList ↔
      lastValue? all name = some value := by
  have hplain : (plain uid cwd).environ.get? name = none := rfl
  rw [Environ.mem_toList_iff, get?_environ_changes, hplain, Option.or_none]

/-! ### Where the variables stand -/

/-- The words for the helper in front of the variables. -/
def front (s : Spec) (helper : Bytes) : List Bytes :=
  [display helper, ofString "enter"] ++
  (if s.verbose then [ofString "-v"] else []) ++
  s.ptyOptions ++
  ["--uid=" ++ decimal s.uid.toNat, "--cwd=" ++ display s.cwd] ++
  (if s.noReplay then [ofString "--no-replay"] else [])

/-- The variables stand between the options and what is run. -/
lemma helperArgv_eq_front (s : Spec) (helper loginShell : Bytes) :
    s.helperArgv helper loginShell =
      s.front helper ++ marker :: (s.environ.toList.map assignment ++
        s.effectiveCommand loginShell) := by
  unfold helperArgv front marker
  simp only [List.append_assoc, List.cons_append, List.nil_append]

/-- **Only the last changes count.**  Changes that agree on the last terminal, the last word on the
startup output and on telling more, the last command and the last value of each name build the same
entry, which is handed to the helper as the same words.  Whatever the changes, an entry has a
terminal if and only if it has streams; and among its words the variables stand in strictly
ascending order of their names, just those that were set, each with the value that it was given
last. -/
theorem last_changes_decide (uid : UInt32) (cwd helper loginShell : Bytes) (all : List Change)
    (s : Spec) (hbuilt : s = (plain uid cwd).changes all) :
    (∀ other, SameLast all other → (plain uid cwd).changes other = s ∧
      ((plain uid cwd).changes other).helperArgv helper loginShell =
        s.helperArgv helper loginShell) ∧
    (s.pty.isSome ↔ s.streams ≠ Streams.none) ∧
    ∃ vars : List (Bytes × Bytes),
      s.helperArgv helper loginShell =
        s.front helper ++ marker :: (vars.map assignment ++ s.effectiveCommand loginShell) ∧
      (vars.Pairwise fun a b => a.1 < b.1) ∧
      ∀ name value, (name, value) ∈ vars ↔ lastValue? all name = some value := by
  have hpty : s.pty.isSome = !s.streams.isEmpty := by
    rw [hbuilt]
    exact pty_changes rfl all
  have hstreams : s.streams.isEmpty ↔ s.streams = Streams.none := by
    obtain ⟨stdin, stdout, stderr⟩ := s.streams
    revert stdin stdout stderr
    decide
  refine ⟨fun other h => ?_, ?_, s.environ.toList, s.helperArgv_eq_front helper loginShell,
    s.environ.ascending, fun name value => ?_⟩
  · have hsame := changes_eq_of_sameLast h (plain uid cwd)
    rw [← hbuilt] at hsame
    exact ⟨hsame, by rw [hsame]⟩
  · rw [hpty, Bool.not_eq_true', ne_eq, ← hstreams, Bool.not_eq_true]
  · rw [hbuilt]
    exact mem_environ_changes uid cwd all name value

/-- Changes that put the streams on a terminal and take them off again, that change their mind about
the startup output, and that set a variable twice, whose name another one begins with. -/
def hesitantChanges : List Change := [
  .assign "LC" "C",
  .pty "/dev/pts/9" ⟨true, true, false⟩,
  .noReplay true,
  .assignAll [("L", "="), ("LC", "de")],
  .command ["ls"],
  .noReplay false,
  .pty "/dev/pts/3" .none]

/-- Changes that come to the same without a detour. -/
def straightChanges : List Change := [
  .pty "/dev/pts/3" .none,
  .command ["ls"],
  .assignAll [("LC", "de"), ("L", "=")],
  .noReplay false]

/-- Both build the same entry, without a terminal and with the shorter name in front. -/
theorem last_changes_decide_hesitant :
    SameLast hesitantChanges straightChanges ∧
    (plain 7 "/srv").changes straightChanges = (plain 7 "/srv").changes hesitantChanges ∧
    ¬ ((plain 7 "/srv").changes hesitantChanges).pty.isSome ∧
    ((plain 7 "/srv").changes straightChanges).helperArgv "/helper" "/bin/sh" =
      ["/helper", "enter", "--uid=7", "--cwd=/srv", "env", "L==", "LC=de", "ls"] := by
  have hsame : SameLast hesitantChanges straightChanges := by
    refine ⟨rfl, rfl, rfl, rfl, fun name => ?_⟩
    simp only [lastValue?, hesitantChanges, straightChanges, List.flatMap_cons, List.flatMap_nil,
      Change.vars, List.cons_append, List.nil_append, List.append_nil, List.reverse_cons,
      List.reverse_nil, lookup_cons_eq]
    have hne : ofString "LC" ≠ ofString "L" := by decide
    by_cases hname : name = ofString "LC"
    · simp [hname, hne]
    · simp [hname]
  obtain ⟨hspec, hpty, -⟩ := last_changes_decide 7 "/srv" "/helper" "/bin/sh" hesitantChanges _ rfl
  obtain ⟨heq, hargv⟩ := hspec straightChanges hsame
  refine ⟨hsame, heq, fun hsome => hpty.1 hsome rfl, ?_⟩
  rw [hargv]
  decide

end Spec

end ContainerEntry.Entry
