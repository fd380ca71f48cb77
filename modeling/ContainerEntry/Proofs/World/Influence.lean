import Mathlib
import ContainerEntry.Proofs.Caller
import ContainerEntry.Proofs.World.TypedCommand

/-!
# Which variables of the caller count

Two runs of the host's program in worlds that differ in the variables of the process only, and of
these only in ones that nobody asks for: they neither go along into a container nor name the caller
beneath a privilege wrapper.

* **Who calls is settled by the variables that are asked for** (`resolve_congr`), and so is what
  goes along: an environment has the forwarded names, each with the caller's value (`get?_select`).
* **All variables are read as texts, also those that nobody asks for** (`current_eq`).  The first
  that is none ends the program, so this one variable counts whatever its name is.
* **What reaches a door is settled by the caller** (`Reaches.of_current_eq`, `Reaches.unique`).

`only_forwarded_count` says exactly when the other variables have no influence.
-/

namespace ContainerEntry

open Bytes Text Entry CommandLine

namespace Caller

/-! ### What is read of the variables -/

/-- The names of the variables that are asked for: those that go along, and those by which privilege
wrappers name the caller. -/
def asked : List Bytes := forwarded ++ wrapperVariables

/-- Variables that give the same values to all names that are asked for. -/
def Agrees (vars vars' : List (Bytes × Bytes)) : Prop :=
  ∀ name ∈ asked, vars.lookup name = vars'.lookup name

instance (vars vars' : List (Bytes × Bytes)) : Decidable (Agrees vars vars') :=
  inferInstanceAs (Decidable (∀ name ∈ asked, vars.lookup name = vars'.lookup name))

variable {accounts : List Account} {vars vars' : List (Bytes × Bytes)}

/-! ### What does not depend on other variables -/

/-- **Variables that nobody asks for do not change who calls.** -/
lemma resolve_congr (h : Agrees vars vars') : resolve accounts vars = resolve accounts vars' := by
  have huid : resolveUid (textVariable vars) = resolveUid (textVariable vars') := by
    apply uidFrom_congr
    intro name hname
    rw [textVariable, textVariable, h name (List.mem_append_right _ hname)]
  rw [resolve, resolve, huid]

/-- **What goes along are the forwarded names, each with the caller's value.** -/
lemma get?_select (hnames : (vars.map Prod.fst).Nodup) (name : Bytes) :
    (select vars).get? name = if name ∈ forwarded then vars.lookup name else none := by
  have hkept : ((vars.filter fun v => forwarded.contains v.1).map Prod.fst).Nodup :=
    hnames.sublist (List.filter_sublist.map _)
  rw [select, Environ.get?_ofList, Environ.lookup_reverse hkept,
    Bytes.lookup_filter (forwarded.contains ·)]
  simp only [List.contains_iff_mem]

/-- Variables that nobody asks for do not change what goes along. -/
lemma select_congr (hnames : (vars.map Prod.fst).Nodup) (hnames' : (vars'.map Prod.fst).Nodup)
    (h : Agrees vars vars') : select vars = select vars' := by
  apply Environ.ext_get?
  intro name
  rw [get?_select hnames, get?_select hnames']
  by_cases hname : name ∈ forwarded
  · rw [if_pos hname, if_pos hname, h name (List.mem_append_left _ hname)]
  · rw [if_neg hname, if_neg hname]

/-! ### What does -/

/-- If there is a caller on both sides, then it is the same one. -/
lemma eq_of_agrees (hnames : (vars.map Prod.fst).Nodup) (hnames' : (vars'.map Prod.fst).Nodup)
    (h : Agrees vars vars') {caller caller' : Caller} (hcaller : current accounts vars = .ok caller)
    (hcaller' : current accounts vars' = .ok caller') : caller = caller' := by
  obtain ⟨found, hfound, -, rfl⟩ := current_eq_ok_iff.1 hcaller
  obtain ⟨found', hfound', -, rfl⟩ := current_eq_ok_iff.1 hcaller'
  rw [resolve_congr h, hfound'] at hfound
  rw [Except.ok.inj hfound, select_congr hnames hnames' h]

/-- The outcome is the same exactly if the caller cannot be resolved, or if the same variable, or
none, is the first that is no text. -/
lemma current_congr_iff (hnames : (vars.map Prod.fst).Nodup)
    (hnames' : (vars'.map Prod.fst).Nodup) (h : Agrees vars vars') :
    current accounts vars = current accounts vars' ↔
      (∃ failure, current accounts vars = .error (.failed failure)) ∨
        undecodable? vars = undecodable? vars' := by
  simp only [current_eq_failed_iff]
  rw [current_eq, current_eq, resolve_congr h, select_congr hnames hnames' h]
  cases resolve accounts vars' with
  | error f => simp
  | ok found => cases undecodable? vars <;> cases undecodable? vars' <;> simp [Prod.ext_iff]

/-- No variable that nobody asks for ends the program exactly if the caller cannot be resolved, or
if the first variable that is no text is one that is asked for. -/
lemma mem_asked_of_undecodable_iff :
    (∀ name value, current accounts vars = .error (.undecodable name value) → name ∈ asked) ↔
      (∃ failure, current accounts vars = .error (.failed failure)) ∨
        ∀ v ∈ undecodable? vars, v.1 ∈ asked := by
  simp only [current_eq_failed_iff, current_eq_undecodable_iff]
  cases resolve accounts vars with
  | error f => simp
  | ok found => simp [Prod.forall]

end Caller

/-- A booted container has no seat of the host, and everything else is as in another container. -/
lemma Container.get?_suit (container : Container) (environ : Environ) (name : Bytes) :
    (container.suit environ).get? name =
      if container.config.boot ∧ name = seatVariable then none else environ.get? name := by
  rw [suit]
  by_cases hboot : container.config.boot
  · simp only [hboot, true_and, if_true]
    exact Environ.get?_erase environ seatVariable name
  · simp [hboot]

namespace World

variable {w : World} {vars vars' : List (Bytes × Bytes)} {line argv : List Bytes}

/-! ### What is sent -/

/-- The host's program gets from a command line as far as a door, with these words for the
helper. -/
def Sends (w : World) (line argv : List Bytes) : Prop :=
  ∃ settings caller container spec, w.Reaches line settings caller container spec ∧
    argv = spec.helperArgv settings.entryHelper settings.loginShell

/-- There is one way to a door. -/
lemma Reaches.unique {settings settings' : Settings} {caller caller' : Caller}
    {container container' : Container} {spec spec' : Spec}
    (h : w.Reaches line settings caller container spec)
    (h' : w.Reaches line settings' caller' container' spec') :
    settings = settings' ∧ spec = spec' := by
  cases h with
  | intro hparse hcommand hsettings hcaller hcontainer hterminal =>
    cases h' with
    | intro hparse' hcommand' hsettings' hcaller' hcontainer' hterminal' =>
      cases hparse.symm.trans hparse'
      cases hcommand.symm.trans hcommand'
      cases hsettings.symm.trans hsettings'
      cases hcaller.symm.trans hcaller'
      cases hcontainer.symm.trans hcontainer'
      cases hterminal.symm.trans hterminal'
      exact ⟨rfl, rfl⟩

/-- Variables count on the way to a door only for who calls. -/
lemma Reaches.of_current_eq {settings : Settings} {caller : Caller} {container : Container}
    {spec : Spec} (heq : Caller.current w.accounts vars = Caller.current w.accounts vars')
    (h : { w with environ := vars }.Reaches line settings caller container spec) :
    { w with environ := vars' }.Reaches line settings caller container spec := by
  cases h with
  | intro hparse hcommand hsettings hcaller hcontainer hterminal =>
    exact .intro hparse hcommand hsettings (heq.symm.trans hcaller) hcontainer hterminal

/-- What reaches a door has a caller. -/
lemma Reaches.current_eq_ok {settings : Settings} {caller : Caller} {container : Container}
    {spec : Spec} (h : w.Reaches line settings caller container spec) :
    Caller.current w.accounts w.environ = .ok caller := by
  cases h with
  | intro _ _ _ hcaller _ _ => exact hcaller

/-- The same words are sent for the same caller. -/
lemma Sends.of_current_eq
    (heq : Caller.current w.accounts vars = Caller.current w.accounts vars')
    (h : { w with environ := vars }.Sends line argv) :
    { w with environ := vars' }.Sends line argv := by
  obtain ⟨settings, caller, container, spec, hreaches, hargv⟩ := h
  exact ⟨settings, caller, container, spec, hreaches.of_current_eq heq, hargv⟩

/-- What is sent under both environments is the same. -/
lemma Sends.unique_of_agrees (hnames : (vars.map Prod.fst).Nodup)
    (hnames' : (vars'.map Prod.fst).Nodup) (hagrees : Caller.Agrees vars vars') {argv' : List Bytes}
    (h : { w with environ := vars }.Sends line argv)
    (h' : { w with environ := vars' }.Sends line argv') : argv = argv' := by
  obtain ⟨settings, caller, container, spec, hreaches, rfl⟩ := h
  obtain ⟨settings', caller', container', spec', hreaches', rfl⟩ := h'
  -- Whoever sends has a caller, so neither side has a variable that ends the program.
  obtain rfl := Caller.eq_of_agrees hnames hnames' hagrees hreaches.current_eq_ok
    hreaches'.current_eq_ok
  have heq : Caller.current w.accounts vars = Caller.current w.accounts vars' :=
    hreaches.current_eq_ok.trans hreaches'.current_eq_ok.symm
  obtain ⟨rfl, rfl⟩ := (hreaches.of_current_eq heq).unique hreaches'
  rfl

/-- **Only variables that are asked for count, as long as the others are texts.**  Under variables
that agree on the names that are asked for, the outcome is the same, and no other variable ends the
program, if and only if the caller cannot be resolved, or the first variable that is no text is the
same on both sides and one that is asked for.  Whenever the outcome is the same, so are the words
for the helper on every command line, and two different ones are never sent.  What goes along are
the forwarded names with the caller's values, but for the seat in a booted container. -/
theorem only_forwarded_count (w : World) (vars vars' : List (Bytes × Bytes))
    (hnames : (vars.map Prod.fst).Nodup) (hnames' : (vars'.map Prod.fst).Nodup)
    (hagrees : Caller.Agrees vars vars') :
    ((Caller.current w.accounts vars = Caller.current w.accounts vars' ∧
        ∀ name value, Caller.current w.accounts vars = .error (.undecodable name value) →
          name ∈ Caller.asked) ↔
      (∃ failure, Caller.current w.accounts vars = .error (.failed failure)) ∨
        (Caller.undecodable? vars = Caller.undecodable? vars' ∧
          ∀ v ∈ Caller.undecodable? vars, v.1 ∈ Caller.asked)) ∧
    (Caller.current w.accounts vars = Caller.current w.accounts vars' → ∀ line argv,
      ({ w with environ := vars }.Sends line argv ↔ { w with environ := vars' }.Sends line argv)) ∧
    (∀ line argv argv', { w with environ := vars }.Sends line argv →
      { w with environ := vars' }.Sends line argv' → argv = argv') ∧
    (∀ caller, Caller.current w.accounts vars = .ok caller → ∀ name,
      caller.environ.get? name = if name ∈ Caller.forwarded then vars.lookup name else none) ∧
    (∀ (container : Container) (environ : Environ) (name : Bytes),
      (container.suit environ).get? name =
        if container.config.boot ∧ name = Container.seatVariable then none
        else environ.get? name) := by
  refine ⟨?_, ?_, ?_, ?_, Container.get?_suit⟩
  · rw [Caller.current_congr_iff hnames hnames' hagrees, Caller.mem_asked_of_undecodable_iff,
      or_and_left]
  · intro heq line argv
    exact ⟨Sends.of_current_eq heq, Sends.of_current_eq heq.symm⟩
  · intro line argv argv' h h'
    exact Sends.unique_of_agrees hnames hnames' hagrees h h'
  · intro caller hcaller name
    obtain ⟨found, -, -, rfl⟩ := Caller.current_eq_ok_iff.1 hcaller
    exact Caller.get?_select hnames name

/-- The command line that enters the container of the small host. -/
def enterLine : List Bytes := [ofString "enter", ofString "dev", ofString "--", ofString "true"]

/-- Other variables than those of the small host, but none that is asked for. -/
def otherVariables : List (Bytes × Bytes) :=
  [("HOME", "/nowhere"), ("LD_PRELOAD", "/tmp/evil.so"), ("TERM", "vt100")]

/-- The variables of the small host with one more, which is no text. -/
def brokenVariables : List (Bytes × Bytes) :=
  [("HOME", "/root"), ("TERM", "vt100"), ("UNRELATED", [0xff])]

/-- The small host sends something for its command line. -/
lemma exists_sends_enterLine : ∃ argv, smallHost.Sends enterLine argv :=
  ⟨_, .standard, smallCaller, smallContainer, _, reaches_smallEntry [ofString "true"] rfl, rfl⟩

/-- Another home directory and a library to load first have no influence on what is sent. -/
theorem only_forwarded_count_texts :
    (smallHost.environ.map Prod.fst).Nodup ∧ (otherVariables.map Prod.fst).Nodup ∧
    Caller.Agrees smallHost.environ otherVariables ∧
    Caller.current smallHost.accounts smallHost.environ =
      Caller.current smallHost.accounts otherVariables ∧
    ∃ argv, smallHost.Sends enterLine argv ∧
      { smallHost with environ := otherVariables }.Sends enterLine argv := by
  have hnames : (smallHost.environ.map Prod.fst).Nodup := by decide
  have hnames' : (otherVariables.map Prod.fst).Nodup := by decide
  have hagrees : Caller.Agrees smallHost.environ otherVariables := by decide
  have htexts : Caller.undecodable? smallHost.environ = none := by decide
  have htexts' : Caller.undecodable? otherVariables = none := by decide
  obtain ⟨hsame, hsends, -⟩ :=
    only_forwarded_count smallHost smallHost.environ otherVariables hnames hnames' hagrees
  have hnone : ∀ v ∈ Caller.undecodable? smallHost.environ, v.1 ∈ Caller.asked := by
    intro v hv
    rw [htexts] at hv
    cases hv
  have heq := (hsame.2 (.inr ⟨htexts.trans htexts'.symm, hnone⟩)).1
  obtain ⟨argv, hargv⟩ := exists_sends_enterLine
  exact ⟨hnames, hnames', hagrees, heq, argv, hargv, (hsends heq enterLine argv).1 hargv⟩

/-- A variable that nobody asks for ends the program: where the small host enters its container,
the same host with one more variable gives up before the door. -/
theorem unread_variable_ends_program :
    (smallHost.environ.map Prod.fst).Nodup ∧ (brokenVariables.map Prod.fst).Nodup ∧
    Caller.Agrees smallHost.environ brokenVariables ∧
    (∃ argv, smallHost.Sends enterLine argv) ∧
    (¬ ∃ argv, { smallHost with environ := brokenVariables }.Sends enterLine argv) ∧
    ({ smallHost with environ := brokenVariables }.run enterLine).ending = some (.exits 101) ∧
    Caller.current smallHost.accounts smallHost.environ = .ok smallCaller ∧
    Caller.current smallHost.accounts brokenVariables =
      .error (.undecodable (ofString "UNRELATED") [0xff]) ∧
    ofString "UNRELATED" ∉ Caller.asked := by
  have hbroken : Caller.current smallHost.accounts brokenVariables =
      .error (.undecodable (ofString "UNRELATED") [0xff]) := by
    rfl
  refine ⟨by decide, by decide, by decide, exists_sends_enterLine, ?_, rfl, rfl, hbroken,
    by decide⟩
  rintro ⟨argv, settings, caller, container, spec, hreaches, -⟩
  cases hbroken.symm.trans hreaches.current_eq_ok

end World

end ContainerEntry
