import Mathlib
import ContainerEntry.CommandLine.Invocation
import ContainerEntry.Proofs.CommandLine.Writing
import ContainerEntry.Proofs.Entry.Assignments

/-!
# The helper reads what it was sent

An entry is described to the helper inside the container by words, and the helper reads them with a
grammar of its own.  The options come first, each with its value attached to it, and the words
behind them begin with the marker, which is no option; so no value and no word of the command is
ever taken for an option.  Between the variables and the command there is nothing, and there the two
sides differ.

* **The helper reads what was written** (`parse_helperArgv`): every flag, the user, the directory,
  the terminal of each stream, and the words behind the options.
* **Variables and command are told apart** exactly when the command does not start with an
  assignment (`splitEnviron_words_iff`).
* **A terminal comes with streams** in every entry that is built by changes (`pty_changes`).

`request_of_helperArgv` puts these together for every entry that is built.
-/

namespace ContainerEntry.Entry

open Bytes Text CommandLine

namespace Spec

/-! ### Entries that can be sent -/

/-- What an entry has to be for the helper to read it: its texts are texts, and nothing is empty
that must not be. -/
structure IsSendable (s : Spec) : Prop where
  /-- Every variable has a name that an assignment can carry. -/
  names : ∀ v ∈ s.environ.toList, IsVariable v.1
  /-- Variables are texts. -/
  environ_isUtf8 : ∀ v ∈ s.environ.toList, isUtf8 v.1 ∧ isUtf8 v.2
  /-- Words are texts. -/
  command_isUtf8 : ∀ word ∈ s.command, isUtf8 word
  /-- A terminal has a path. -/
  pty_ne_nil : ∀ path ∈ s.pty, path ≠ []
  /-- There is a directory to start in. -/
  cwd_ne_nil : s.cwd ≠ []

variable {s : Spec}

/-- The options that put streams on the terminal, with their value. -/
def terminalOptions (s : Spec) : List (Bytes × Option Bytes) :=
  match s.pty with
  | none => []
  | some path => s.streams.toList.map fun stream => (stream.name, some path)

/-- The long options of an entry, with their values. -/
def options (s : Spec) : List (Bytes × Option Bytes) :=
  s.terminalOptions ++
  [(ofString "uid", some (decimal s.uid.toNat)), (ofString "cwd", some (display s.cwd))] ++
  if s.noReplay then [(ofString "no-replay", none)] else []

/-- The words behind the options. -/
def words (s : Spec) (loginShell : Bytes) : List Bytes :=
  marker :: (s.environ.toList.map assignment ++ s.effectiveCommand loginShell)

/-- What the helper reads. -/
def invocation (s : Spec) (loginShell : Bytes) : HelperInvocation where
  verbose := s.verbose
  stdin := if s.streams.stdin then s.pty else none
  stdout := if s.streams.stdout then s.pty else none
  stderr := if s.streams.stderr then s.pty else none
  uid := s.uid
  cwd := display s.cwd
  noReplay := s.noReplay
  words := s.words loginShell

/-- The names of the options in the order in which they are written. -/
def optionNames : List Bytes :=
  [ofString "stdin", ofString "stdout", ofString "stderr", ofString "uid", ofString "cwd",
    ofString "no-replay"]

/-- The level of the helper's only subcommand. -/
def helperLevel : Level := (helperGrammar.subcommands.map (·.2)).headD ⟨[], [], []⟩

/-- The helper's only argument. -/
def helperArgument : Positional := ⟨"args", .text, .everything, true⟩

/-! ### What is written -/

/-- The words for the helper are its name, its subcommand, options, and what it shall do. -/
lemma helperArgv_eq (s : Spec) (helper loginShell : Bytes) :
    s.helperArgv helper loginShell =
      display helper :: ofString "enter" ::
        ((if s.verbose then [[hyphen, 0x76]] else []) ++
          (s.options.map (fun e => written e.1 e.2) ++ s.words loginShell)) := by
  have hverbose : ofString "-v" = [hyphen, 0x76] := by decide
  have huid (value : Bytes) :
      ofString "--uid=" ++ value = written (ofString "uid") (some value) := by rfl
  have hcwd (value : Bytes) :
      ofString "--cwd=" ++ value = written (ofString "cwd") (some value) := by rfl
  have hreplay : ofString "--no-replay" = written (ofString "no-replay") none := by rfl
  have hpty : s.ptyOptions = s.terminalOptions.map fun e => written e.1 e.2 := by
    unfold ptyOptions terminalOptions
    cases s.pty with
    | none => rfl
    | some path =>
      rw [List.map_map]
      refine List.map_congr_left fun stream _ => ?_
      cases stream <;> rfl
  unfold helperArgv options words
  rw [hverbose, huid, hcwd, hreplay, hpty]
  cases s.verbose <;> cases s.noReplay <;> simp [marker]

/-- A terminal is written once for a stream. -/
lemma terminalNames_sublist (s : Spec) :
    (s.terminalOptions.map (·.1)).Sublist (Stream.all.map Stream.name) := by
  unfold terminalOptions
  cases s.pty with
  | none => exact List.nil_sublist _
  | some path =>
    rw [List.map_map]
    exact List.filter_sublist.map Stream.name

/-- A flag is written once or not at all. -/
lemma sublist_flag {α : Type} (flag : Bool) (a : α) : (if flag then [a] else []).Sublist [a] := by
  cases flag with
  | false => exact List.nil_sublist _
  | true => exact .refl _

/-- No option is written twice. -/
lemma names_sublist (s : Spec) : (s.options.map (·.1)).Sublist optionNames := by
  have hreplay := (sublist_flag s.noReplay (ofString "no-replay", (none : Option Bytes))).map (·.1)
  unfold options
  rw [List.map_append, List.map_append]
  exact (s.terminalNames_sublist.append (.refl _)).append hreplay

/-- Every option is one of the helper's and takes what is attached to it. -/
lemma takes_options (hs : s.IsSendable) :
    ∀ e ∈ s.options, equals ∉ e.1 ∧ e.1 ≠ [] ∧
      ∃ o, helperLevel.long? e.1 = some o ∧ o.Takes e.2 := by
  intro e he
  have hname : e.1 ∈ optionNames := s.names_sublist.subset (List.mem_map_of_mem he)
  refine ⟨(by decide : ∀ name ∈ optionNames, equals ∉ name) _ hname,
    (by decide : ∀ name ∈ optionNames, name ≠ []) _ hname, ?_⟩
  unfold options at he
  rw [List.mem_append, List.mem_append] at he
  rcases he with (he | he) | he
  · unfold terminalOptions at he
    cases hpty : s.pty with
    | none =>
      rw [hpty] at he
      cases he
    | some path =>
      rw [hpty] at he
      obtain ⟨stream, -, rfl⟩ := List.mem_map.1 he
      have hpath : Kind.path.refusal? path = none := by
        simp [Kind.refusal?, hs.pty_ne_nil path hpty]
      cases stream <;> exact ⟨_, rfl, .path, rfl, hpath⟩
  · rcases List.mem_pair.1 he with rfl | rfl
    · refine ⟨_, rfl, .uid, rfl, ?_⟩
      simp [Kind.refusal?, isUtf8_decimal, readUid?_decimal]
    · refine ⟨_, rfl, .path, rfl, ?_⟩
      simp [Kind.refusal?, display_ne_nil hs.cwd_ne_nil]
  · cases hreplay : s.noReplay with
    | false =>
      rw [hreplay] at he
      cases he
    | true =>
      rw [hreplay] at he
      obtain rfl := List.mem_singleton.1 he
      exact ⟨_, rfl, rfl⟩

/-- Every word behind the options is a text. -/
lemma isUtf8_words (hs : s.IsSendable) (loginShell : Bytes) :
    ∀ word ∈ s.words loginShell, isUtf8 word := by
  intro word hword
  unfold words at hword
  rw [List.mem_cons, List.mem_append] at hword
  rcases hword with rfl | hword | hword
  · decide
  · obtain ⟨v, hv, rfl⟩ := List.mem_map.1 hword
    obtain ⟨hname, hvalue⟩ := hs.environ_isUtf8 v hv
    exact isUtf8_append hname (isUtf8_cons (by decide) hvalue)
  · unfold effectiveCommand at hword
    split at hword
    · rcases List.mem_pair.1 hword with rfl | rfl
      · exact isUtf8_display loginShell
      · decide
    · exact hs.command_isUtf8 word hword

/-! ### What is read -/

/-- What has been noted in front of the words. -/
def noted (s : Spec) : Given :=
  (if s.verbose then [(ofString "verbose", [])] else []) ++
    s.options.map fun e => (e.1, e.2.toList)

/-- What the helper's subcommand is given. -/
def given (s : Spec) (loginShell : Bytes) : Given :=
  s.noted ++ [(helperArgument.name, s.words loginShell)]

/-- The options are noted and the words are taken. -/
lemma read_helperLevel (hs : s.IsSendable) (loginShell : Bytes) :
    helperLevel.read .start
        ((if s.verbose then [[hyphen, 0x76]] else []) ++
          (s.options.map (fun e => written e.1 e.2) ++ s.words loginShell)) =
      .ok (.words (Level.taking (.settled s.noted) helperArgument (s.words loginShell))) := by
  have hverbose : ∀ rest, helperLevel.read .start
      ((if s.verbose then [[hyphen, 0x76]] else []) ++ rest) =
        helperLevel.read (.settled (if s.verbose then [(ofString "verbose", [])] else []))
          rest := by
    intro rest
    cases s.verbose with
    | false => rfl
    | true =>
      have ho : helperLevel.short? 0x76 = some verboseOption := rfl
      exact Level.read_short rfl ho rfl (by decide) rfl rest
  have hnodup : (s.options.map (·.1)).Nodup :=
    (by decide : optionNames.Nodup).sublist s.names_sublist
  have hnew : ∀ e ∈ s.options,
      (if s.verbose then [(ofString "verbose", ([] : List Bytes))] else []).lookup e.1 = none := by
    intro e he
    have hname : e.1 ∈ optionNames := s.names_sublist.subset (List.mem_map_of_mem he)
    have hne := (by decide : ∀ name ∈ optionNames, name ≠ ofString "verbose") _ hname
    cases s.verbose with
    | false => rfl
    | true => simpa using hne
  rw [hverbose, Level.read_options rfl (takes_options hs) hnodup hnew]
  exact Level.read_everything rfl rfl rfl (by decide) _

/-- The names of what is given, in order. -/
lemma names_given (s : Spec) (loginShell : Bytes) :
    (s.given loginShell).map (·.1) =
      (if s.verbose then [ofString "verbose"] else []) ++ (s.terminalOptions.map (·.1) ++
        [ofString "uid", ofString "cwd"] ++ (if s.noReplay then [ofString "no-replay"] else [])) ++
      [helperArgument.name] := by
  unfold given noted options
  cases s.verbose <;> cases s.noReplay <;> simp

/-- Nothing is given twice. -/
lemma nodup_given (s : Spec) (loginShell : Bytes) : ((s.given loginShell).map (·.1)).Nodup := by
  have hall : ([ofString "verbose"] ++ optionNames ++ [helperArgument.name]).Nodup := by decide
  rw [names_given]
  refine hall.sublist (((sublist_flag s.verbose _).append ?_).append (.refl _))
  exact (s.terminalNames_sublist.append (.refl _)).append (sublist_flag s.noReplay _)

/-- An option that is written is given. -/
lemma mem_given {e : Bytes × Option Bytes} (he : e ∈ s.options) (loginShell : Bytes) :
    (e.1, e.2.toList) ∈ s.given loginShell := by
  unfold given noted
  exact List.mem_append_left _ (List.mem_append_right _ (List.mem_map.2 ⟨e, he, rfl⟩))

/-- The options that have to be given are. -/
lemma complete_helperLevel (hs : s.IsSendable) (loginShell : Bytes) :
    helperLevel.complete
        (Level.taking (.settled s.noted) helperArgument (s.words loginShell)) =
      .ok (s.given loginShell) := by
  have huid : (ofString "uid", some (decimal s.uid.toNat)) ∈ s.options := by simp [options]
  have hcwd : (ofString "cwd", some (display s.cwd)) ∈ s.options := by simp [options]
  apply Level.complete_taking (List.cons_ne_nil _ _)
  · intro word hword
    simp [helperArgument, Kind.refusal?, isUtf8_words hs loginShell word hword]
  · rfl
  · intro o ho hrequired
    have hlong := (by decide : ∀ o ∈ helperLevel.options, o.isRequired →
      o.long = ofString "uid" ∨ o.long = ofString "cwd") o ho hrequired
    change ((s.given loginShell).has o.long) = true
    rw [Given.has_iff]
    rcases hlong with hlong | hlong <;> rw [hlong]
    · exact List.mem_map.2 ⟨_, mem_given huid loginShell, rfl⟩
    · exact List.mem_map.2 ⟨_, mem_given hcwd loginShell, rfl⟩

/-- A terminal is given for no other streams than those that are on it. -/
lemma terminalOptions_of_mem {stream : Stream} {loginShell : Bytes}
    (h : stream.name ∈ (s.given loginShell).map (·.1)) :
    stream.name ∈ s.terminalOptions.map (·.1) := by
  have hother : stream.name ∉ [ofString "verbose", ofString "uid", ofString "cwd",
      ofString "no-replay", helperArgument.name] := by
    cases stream <;> decide
  have hverbose := (sublist_flag s.verbose (ofString "verbose")).subset
  have hreplay := (sublist_flag s.noReplay (ofString "no-replay")).subset
  rw [names_given] at h
  simp only [List.mem_append] at h
  rcases h with (h | (h | h) | h) | h
  · exact absurd (by simp [List.mem_singleton.1 (hverbose h)]) hother
  · exact h
  · exact absurd (by rcases List.mem_pair.1 h with h | h <;> simp [h]) hother
  · exact absurd (by simp [List.mem_singleton.1 (hreplay h)]) hother
  · exact absurd (by simp [List.mem_singleton.1 h]) hother

/-- The helper finds the terminal for a stream exactly when the stream is on it. -/
lemma value?_stream (s : Spec) (loginShell : Bytes) (stream : Stream) :
    (s.given loginShell).value? stream.name = if s.streams.has stream then s.pty else none := by
  have hinjective : ∀ {a b : Stream}, a.name = b.name → a = b := by
    intro a b h
    cases a <;> cases b <;> first | rfl | exact absurd h (by decide)
  have habsent (hmem : stream.name ∉ s.terminalOptions.map (·.1)) :
      (s.given loginShell).value? stream.name = none := by
    rw [Given.value?, Given.values_of_not_mem fun h => hmem (terminalOptions_of_mem h)]
    rfl
  cases hpty : s.pty with
  | none =>
    rw [habsent (by simp [terminalOptions, hpty]), ite_self]
  | some path =>
    by_cases hhas : s.streams.has stream
    · have hmem : (stream.name, some path) ∈ s.options := by
        have hstream : stream ∈ s.streams.toList :=
          List.mem_filter.2 ⟨by cases stream <;> decide, hhas⟩
        simp only [options, terminalOptions, hpty, List.mem_append]
        exact .inl (.inl (List.mem_map.2 ⟨stream, hstream, rfl⟩))
      rw [if_pos hhas, Given.value?,
        Given.values_of_mem (s.nodup_given loginShell) (mem_given hmem loginShell)]
      rfl
    · rw [if_neg hhas]
      apply habsent
      intro hmem
      simp only [terminalOptions, hpty, List.map_map] at hmem
      obtain ⟨other, hother, heq⟩ := List.mem_map.1 hmem
      obtain rfl := hinjective heq
      exact hhas (List.mem_filter.1 hother).2

/-- The helper is told to tell more exactly when the entry is. -/
lemma has_verbose (s : Spec) (loginShell : Bytes) :
    (s.given loginShell).has (ofString "verbose") = s.verbose := by
  rw [Bool.eq_iff_iff, Given.has_iff, names_given]
  cases s.verbose with
  | false =>
    have hsub := ((s.terminalNames_sublist.append (.refl [ofString "uid", ofString "cwd"])).append
      (sublist_flag s.noReplay (ofString "no-replay"))).append (.refl [helperArgument.name])
    refine iff_of_false (fun h => ?_) Bool.false_ne_true
    exact absurd (hsub.subset h) (by decide)
  | true => simp

/-- The helper is told not to replay exactly when the entry is. -/
lemma has_noReplay (s : Spec) (loginShell : Bytes) :
    (s.given loginShell).has (ofString "no-replay") = s.noReplay := by
  rw [Bool.eq_iff_iff, Given.has_iff, names_given]
  cases s.noReplay with
  | false =>
    have hsub := ((sublist_flag s.verbose (ofString "verbose")).append
      ((s.terminalNames_sublist.append (.refl [ofString "uid", ofString "cwd"])).append
        (.refl []))).append
      (.refl [helperArgument.name])
    refine iff_of_false (fun h => ?_) Bool.false_ne_true
    exact absurd (hsub.subset h) (by decide)
  | true => simp

/-- **The helper reads what was written.** -/
lemma parse_helperArgv (hs : s.IsSendable) (helper loginShell : Bytes) :
    HelperInvocation.parse (s.helperArgv helper loginShell).tail =
      .ok (s.invocation loginShell) := by
  have hparse : helperGrammar.parse (s.helperArgv helper loginShell).tail =
      .ok ⟨[], ofString "enter", s.given loginShell⟩ := by
    rw [helperArgv_eq, List.tail_cons]
    exact Grammar.parse_subcommand rfl (by decide) (by decide) (read_helperLevel hs loginShell)
      (complete_helperLevel hs loginShell)
  have hnodup := s.nodup_given loginShell
  have huid : (s.given loginShell).value? (ofString "uid") = some (decimal s.uid.toNat) := by
    have hmem : (ofString "uid", some (decimal s.uid.toNat)) ∈ s.options := by simp [options]
    rw [Given.value?, Given.values_of_mem hnodup (mem_given hmem loginShell)]
    rfl
  have hcwd : (s.given loginShell).value? (ofString "cwd") = some (display s.cwd) := by
    have hmem : (ofString "cwd", some (display s.cwd)) ∈ s.options := by simp [options]
    rw [Given.value?, Given.values_of_mem hnodup (mem_given hmem loginShell)]
    rfl
  have hwords : (s.given loginShell).values (ofString "args") = s.words loginShell :=
    Given.values_of_mem hnodup (List.mem_append_right _ (List.mem_singleton_self _))
  have hstdin := s.value?_stream loginShell .stdin
  have hstdout := s.value?_stream loginShell .stdout
  have hstderr := s.value?_stream loginShell .stderr
  simp only [Stream.name, Streams.has] at hstdin hstdout hstderr
  unfold HelperInvocation.parse invocation
  rw [hparse]
  simp only [Except.map, huid, hcwd, hwords, has_verbose, has_noReplay, hstdin, hstdout,
    hstderr, Option.bind_some, readUid?_decimal, Option.getD_some]
  rfl

/-! ### What is split off -/

/-- There is always something to run. -/
lemma effectiveCommand_ne_nil (s : Spec) (loginShell : Bytes) :
    s.effectiveCommand loginShell ≠ [] := by
  unfold effectiveCommand
  cases s.command <;> simp

/-- Assignments that the command begins with go behind the entry's variables, and what is left is
the command. -/
lemma splitEnviron_words (hs : s.IsSendable) (loginShell : Bytes) :
    splitEnviron (s.words loginShell) =
      if (s.effectiveCommand loginShell).dropWhile isAssignment = [] then .error missingCommand
      else .ok
        (s.environ.toList ++
          ((s.effectiveCommand loginShell).takeWhile isAssignment).filterMap asAssignment?,
        (s.effectiveCommand loginShell).dropWhile isAssignment) :=
  splitEnviron_assignments hs.names _

/-- The entry's variables and its command are what is read exactly when the command does not start
with an assignment. -/
lemma splitEnviron_words_iff (hs : s.IsSendable) (loginShell : Bytes) :
    splitEnviron (s.words loginShell) = .ok (s.environ.toList, s.effectiveCommand loginShell) ↔
      ∀ word ∈ (s.effectiveCommand loginShell).head?, isAssignment word = false := by
  rw [splitEnviron_words hs]
  cases heffective : s.effectiveCommand loginShell with
  | nil => exact absurd heffective (s.effectiveCommand_ne_nil loginShell)
  | cons word rest =>
    cases hword : isAssignment word with
    | false => simp [hword]
    | true =>
      refine iff_of_false (fun h => ?_) (by simp [hword])
      rw [List.dropWhile_cons_of_pos hword] at h
      split at h
      · cases h
      · -- What is left of the words behind the first cannot be all of the words.
        have hcommand := (Prod.mk.inj (Except.ok.inj h)).2
        have hlength := (List.dropWhile_suffix isAssignment (l := rest)).length_le
        rw [hcommand] at hlength
        simp at hlength

/-- A login shell is no assignment, so what matters is the command that was given. -/
lemma head_effectiveCommand {loginShell : Bytes} (hshell : Path.isAbsolute loginShell) :
    (∀ word ∈ (s.effectiveCommand loginShell).head?, isAssignment word = false) ↔
      ∀ word ∈ s.command.head?, isAssignment word = false := by
  unfold effectiveCommand
  cases s.command with
  | cons word rest => rfl
  | nil =>
    refine iff_of_true ?_ (by simp)
    unfold Path.isAbsolute at hshell
    split at hshell
    · next rest =>
      intro word hword
      obtain rfl : display (slash :: rest) = word := by simpa using hword
      rw [display_cons (by decide)]
      exact isAssignment_slash _
    · cases hshell

/-! ### Entries that are built -/

/-- A change keeps a terminal and the streams on it together. -/
lemma pty_change (h : s.pty.isSome = !s.streams.isEmpty) (c : Change) :
    (s.change c).pty.isSome = !(s.change c).streams.isEmpty := by
  cases c with
  | pty path streams =>
    simp only [change]
    cases streams.isEmpty <;> rfl
  | assign | assignAll | noReplay | verbose | command => exact h

/-- Changes keep a terminal and the streams on it together. -/
lemma pty_changes (h : s.pty.isSome = !s.streams.isEmpty) (all : List Change) :
    (s.changes all).pty.isSome = !(s.changes all).streams.isEmpty := by
  induction all generalizing s with
  | nil => exact h
  | cons c all ih => exact ih (pty_change h c)

/-- The words that are to be run. -/
def wanted (s : Spec) (loginShell : Bytes) : List Bytes :=
  if s.command = [] then [loginShell, ofString "-l"] else s.command

/-- A login shell whose path is a text is run by its path. -/
lemma effectiveCommand_eq_wanted {loginShell : Bytes} (hshell : isUtf8 loginShell) :
    s.effectiveCommand loginShell = s.wanted loginShell := by
  unfold effectiveCommand wanted
  rw [display_eq_self hshell]
  cases s.command <;> rfl

/-- **What is sent is what is read.**  Whatever entry has been built, the helper reads back what it
says about the user, the directory, the flags and the terminal.  Of the words that are to be run,
those in front that look like assignments become variables, behind the entry's own; the others are
the command, and without one there is no request.  So the request is the entry unless its command
starts with an assignment. -/
theorem request_of_helperArgv (uid : UInt32) (cwd : Bytes) (all : List Change)
    (helper loginShell : Bytes) (s : Spec) (hbuilt : s = (plain uid cwd).changes all)
    (hs : s.IsSendable) (hcwd : isUtf8 s.cwd) (hshell : Path.isAbsolute loginShell)
    (hshell' : isUtf8 loginShell) :
    ∃ i, HelperInvocation.parse (s.helperArgv helper loginShell).tail = .ok i ∧
      i.verbose = s.verbose ∧ i.uid = s.uid ∧ i.cwd = s.cwd ∧ i.noReplay = s.noReplay ∧
      (i.stdin = if s.streams.stdin then s.pty else none) ∧
      (i.stdout = if s.streams.stdout then s.pty else none) ∧
      (i.stderr = if s.streams.stderr then s.pty else none) ∧
      (s.pty.isSome = !s.streams.isEmpty) ∧
      (splitEnviron i.words =
        if (s.wanted loginShell).dropWhile isAssignment = [] then .error missingCommand
        else .ok
          (s.environ.toList ++
            ((s.wanted loginShell).takeWhile isAssignment).filterMap asAssignment?,
          (s.wanted loginShell).dropWhile isAssignment)) ∧
      ((∀ word ∈ s.command.head?, isAssignment word = false) →
        splitEnviron i.words = .ok (s.environ.toList, s.wanted loginShell)) := by
  have hpty : s.pty.isSome = !s.streams.isEmpty := by
    rw [hbuilt]
    exact pty_changes rfl all
  have hsplit := splitEnviron_words hs loginShell
  have hsame := splitEnviron_words_iff hs loginShell
  rw [head_effectiveCommand hshell] at hsame
  rw [effectiveCommand_eq_wanted hshell'] at hsplit hsame
  have hparse := parse_helperArgv hs helper loginShell
  exact ⟨_, hparse, rfl, rfl, display_eq_self hcwd, rfl, rfl, rfl, rfl, hpty, hsplit, hsame.2⟩

/-- An entry whose directory looks like an option, whose only value looks like a command line, and
whose command starts with an assignment and goes on with the words that others take for themselves.
-/
def oddEntry : Spec :=
  (plain 1000 "--uid=0").changes [
    .pty "/dev/pts/3" ⟨true, false, true⟩,
    .assign "TERM" "env --=",
    .noReplay true,
    .command ["A=-v", "--", "env", "B=2"]]

/-- All of it is read back, but for the assignment. -/
theorem request_of_oddEntry :
    oddEntry.IsSendable ∧ isUtf8 oddEntry.cwd ∧
      ∃ i, HelperInvocation.parse (oddEntry.helperArgv "/helper" "/bin/sh").tail = .ok i ∧
        i.uid = 1000 ∧ i.cwd = ofString "--uid=0" ∧ i.stdin = some (ofString "/dev/pts/3") ∧
        i.stdout = none ∧
        splitEnviron i.words = .ok
          ([(ofString "TERM", ofString "env --="), (ofString "A", ofString "-v")],
            [ofString "--", ofString "env", ofString "B=2"]) := by
  have hs : oddEntry.IsSendable := by
    constructor <;> decide
  have hcwd : isUtf8 oddEntry.cwd := by decide
  obtain ⟨i, hparse, -, huid, hdirectory, -, hstdin, hstdout, -, -, hsplit, -⟩ :=
    request_of_helperArgv 1000 "--uid=0" _ "/helper" "/bin/sh" oddEntry rfl hs hcwd rfl (by decide)
  exact ⟨hs, hcwd, i, hparse, huid, hdirectory, hstdin, hstdout, hsplit⟩

end Spec

end ContainerEntry.Entry
