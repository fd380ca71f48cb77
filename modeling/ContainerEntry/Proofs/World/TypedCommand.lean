import Mathlib
import ContainerEntry.Proofs.CommandLine.Reading
import ContainerEntry.Proofs.Entry.RoundTrip
import ContainerEntry.Proofs.Environ
import ContainerEntry.Proofs.Pty.Handoff
import ContainerEntry.Proofs.Settings
import ContainerEntry.World.Run

/-!
# From the typed command to the one that is run

A command is typed behind `--` on the host's command line and run by the helper inside the
container. On its way it is a value of a command line, part of an entry, the end of a door's words,
and a value of the helper's command line, and none of these looks into it.  But then the helper
splits assignments off the words that follow the entry's variables, and it cannot tell where those
end.

* **The host's command line keeps the words** (`Invocation.words_of_parse`), and they are texts
  (`Invocation.checked_of_parse`).
* **What reaches a door can be sent** (`Reaches.isSendable`): every variable is a forwarded one,
  a terminal has a path, and a directory is not empty.  What goes on behind the door is what the
  program does (`run_of_reaches`).
* **A door only puts words in front** (`suffix_of_enterDoor`).

`typed_command_is_read` says exactly when the command that is read is the one that was typed.
-/

namespace ContainerEntry

open Bytes Text Entry CommandLine

/-! ### The host's command line -/

/-- The level of the host's subcommand that enters a container. -/
def enterLevel : Level := (hostGrammar.subcommands.map (·.2)).headD ⟨[], [], []⟩

/-- The argument that takes the command. -/
def commandArgument : Positional := ⟨"command", .text, .afterDashes, false⟩

/-- The command is reserved for the words behind the dashes. -/
lemma enterLevel_reserves : enterLevel.Reserves commandArgument where
  last := rfl
  reach := rfl
  options := by decide
  names := by decide
  others := by decide
  subcommands := rfl

/-- Only a path is declared for the directory. -/
lemma eq_path_of_declares {kind : Kind} (h : enterLevel.Declares (ofString "workdir") kind) :
    kind = .path := by
  rcases h with ⟨o, ho, hlong, heffect⟩ | ⟨a, ha, hname, -⟩
  · have hall : ∀ o ∈ enterLevel.options, o.long = ofString "workdir" →
        o.effect = .value .path := by
      decide
    exact Effect.value.inj (heffect.symm.trans (hall o ho hlong))
  · have hall : ∀ a ∈ enterLevel.positionals, a.name ≠ ofString "workdir" := by decide
    exact absurd hname (hall a ha)

/-- Only texts are declared for the command. -/
lemma eq_text_of_declares {kind : Kind} (h : enterLevel.Declares commandArgument.name kind) :
    kind = .text := by
  rcases h with ⟨o, ho, hlong, -⟩ | ⟨a, ha, hname, hkind⟩
  · exact absurd hlong (enterLevel_reserves.options o ho)
  · have hall : ∀ a ∈ enterLevel.positionals, a.name = commandArgument.name → a.kind = .text := by
      decide
    exact hkind.symm.trans (hall a ha hname)

/-- The subcommand is in front of the dashes, and what its level reads has them, too. -/
lemma top_front {front words : List Bytes} {p : Progress} {name : Bytes} {rest : List Bytes}
    (hfront : [hyphen, hyphen] ∉ front)
    (h : hostGrammar.top.read .start (front ++ [hyphen, hyphen] :: words) =
      .ok (.subcommand p name rest)) :
    ∃ behind, rest = behind ++ [hyphen, hyphen] :: words ∧ [hyphen, hyphen] ∉ behind := by
  have hnone : [hyphen, hyphen] ∉ hostGrammar.top.subcommands := by decide
  have hothers : ∀ a ∈ hostGrammar.top.positionals, a.reach ≠ .everything := by decide
  have hkeeps : ∀ p word q, True → p.isTrailing = false → hostGrammar.top.Step p word q → True :=
    fun _ _ _ _ _ _ => trivial
  rcases Level.read_front hkeeps hothers hnone hfront trivial rfl h with
    ⟨q, name', behind, hending, hbehind⟩ | ⟨q, -, hread⟩
  · cases hending
    exact ⟨behind, rfl, hbehind⟩
  · obtain ⟨q', hending⟩ := Level.words_of_read_trailing rfl hread
    cases hending

/-- A line that asks to enter a container has the subcommand, whose level reads the rest and gives
what the command is made of. -/
lemma CommandLine.Invocation.enterLevel_of_parse {line : List Bytes} {i : Invocation}
    {name : Bytes} {workdir : Option Bytes} {noReplay : Bool} {words : List Bytes}
    (hparse : Invocation.parse line = .ok i)
    (hcommand : i.command = .enter name workdir noReplay words) :
    ∃ p rest q given, hostGrammar.top.read .start line = .ok (.subcommand p "enter" rest) ∧
      enterLevel.read .start rest = .ok (.words q) ∧ enterLevel.complete q = .ok given ∧
      (given.value? containerArgument.name).getD [] = name ∧
      given.value? (ofString "workdir") = workdir ∧ given.values commandArgument.name = words := by
  obtain ⟨r, hgrammar, rfl⟩ := exists_of_map_eq_ok hparse
  obtain ⟨p, rest, level, q, htop, hlookup, hread, hcomplete⟩ := Grammar.parse_cases hgrammar
  simp only [Command.ofGiven] at hcommand
  split_ifs at hcommand with hname
  cases hcommand
  rw [hname] at hlookup htop
  obtain rfl : enterLevel = level := Option.some.inj hlookup
  exact ⟨p, rest, q, r.inner, htop, hread, hcomplete, rfl, rfl, rfl⟩

/-- The words of a command are texts, and a directory is not empty. -/
lemma CommandLine.Invocation.checked_of_parse {line : List Bytes} {i : Invocation} {name : Bytes}
    {workdir : Option Bytes} {noReplay : Bool} {words : List Bytes}
    (hparse : Invocation.parse line = .ok i)
    (hcommand : i.command = .enter name workdir noReplay words) :
    (∀ word ∈ words, isUtf8 word) ∧ ∀ directory ∈ workdir, directory ≠ [] := by
  obtain ⟨p, rest, q, given, -, hread, hcomplete, -, rfl, rfl⟩ :=
    enterLevel_of_parse hparse hcommand
  have haccepts := Level.accepts_of_read hread hcomplete
  refine ⟨fun word hword => ?_, fun directory hdirectory => ?_⟩
  · obtain ⟨e, he, hname, hmem⟩ := Given.mem_values hword
    obtain ⟨kind, hkind, hchecked⟩ := haccepts e he word hmem
    rw [hname] at hkind
    obtain rfl := eq_text_of_declares hkind
    simpa [Kind.refusal?] using hchecked
  · obtain ⟨e, he, hname, hmem⟩ := Given.mem_values (List.mem_of_head? hdirectory)
    obtain ⟨kind, hkind, hchecked⟩ := haccepts e he directory hmem
    rw [hname] at hkind
    obtain rfl := eq_path_of_declares hkind
    simpa [Kind.refusal?] using hchecked

/-- **What is typed behind `--` is the command.** -/
lemma CommandLine.Invocation.words_of_parse {front words : List Bytes} {i : Invocation}
    {name : Bytes} {workdir : Option Bytes} {noReplay : Bool} {typed : List Bytes}
    (hfront : [hyphen, hyphen] ∉ front)
    (hparse : Invocation.parse (front ++ [hyphen, hyphen] :: words) = .ok i)
    (hcommand : i.command = .enter name workdir noReplay typed) : typed = words := by
  obtain ⟨p, rest, q, given, htop, hread, hcomplete, -, -, rfl⟩ :=
    enterLevel_of_parse hparse hcommand
  obtain ⟨behind, rfl, hbehind⟩ := top_front hfront htop
  exact Level.values_of_read_dashes enterLevel_reserves hbehind hread hcomplete

/-! ### What an entry is made of -/

/-- A terminal that was asked for has a path. -/
lemma Pty.path_ne_nil_of_request {files : Filesystem} {services : Pty.Services} {path : Bytes}
    {master : Pty.Master} (h : Pty.request files services path = .ok master) :
    master.path ≠ [] := by
  unfold request at h
  split at h
  · cases h
  · simp only [Channel.receive] at h
    split at h
    · cases h
    · obtain ⟨reply, -, haccepted⟩ := Pty.result_receive_eq_ok_iff.1 h
      exact haccepted.path_ne_nil

/-- The variables of a caller are forwarded ones, and texts. -/
lemma Caller.of_current {accounts : List Account} {vars : List (Bytes × Bytes)} {caller : Caller}
    (h : Caller.current accounts vars = .ok caller) :
    ∀ v ∈ caller.environ.toList, v.1 ∈ forwarded ∧ isUtf8 v.1 ∧ isUtf8 v.2 := by
  unfold current at h
  split at h
  · cases h
  · split at h
    · cases h
    · split at h
      · cases h
      · next hfind =>
        cases h
        intro v hv
        obtain ⟨hmem, hforwarded⟩ := List.mem_filter.1 (Environ.mem_of_mem_ofList hv)
        have htext := List.find?_eq_none.1 hfind v hmem
        refine ⟨by simpa using hforwarded, ?_⟩
        simpa using htext

/-- Forwarded variables have names that assignments can carry. -/
lemma isVariable_of_forwarded : ∀ name ∈ Caller.forwarded, IsVariable name := by
  decide

/-- A container only drops variables. -/
lemma Container.suit_subset (container : Container) (environ : Environ) :
    (container.suit environ).toList ⊆ environ.toList := by
  unfold suit
  split
  · exact List.filter_subset_self _
  · exact List.Subset.refl _

/-- A login shell is an absolute path in all settings. -/
lemma Settings.isAbsolute_loginShell {files : Filesystem} {path : Bytes} {settings : Settings}
    (h : Settings.loadOrStandard files path = .ok settings) :
    Path.isAbsolute settings.loginShell :=
  isAbsolute_of_loadOrStandard h ("host.login_shell", settings.loginShell) (by simp [absolutePaths])

namespace World

/-! ### The way to the door -/

/-- An entry on a terminal, if there is one. -/
def onMaster (streams : Streams) (spec : Spec) : Option Pty.Master → Spec
  | none => spec
  | some master => spec.change (.pty master.path streams)

/-- The host's program gets from a command line as far as a container's door, with an entry to hand
over: nothing in front of the door fails. -/
inductive Reaches (w : World) (line : List Bytes) (settings : Settings) (caller : Caller)
    (container : Container) : Spec → Prop where
  /-- The line asks for an entry, and everything that it takes is there. -/
  | intro {i : Invocation} {name : Bytes} {workdir : Option Bytes} {noReplay : Bool}
    {words : List Bytes} {master : Option Pty.Master} (hparse : Invocation.parse line = .ok i)
    (hcommand : i.command = .enter name workdir noReplay words)
    (hsettings : Settings.loadOrStandard w.files i.config = .ok settings)
    (hcaller : Caller.current w.accounts w.environ = .ok caller)
    (hcontainer : Container.openNamed w.files settings.dataDir caller.name name = .ok container)
    (hterminal : w.containerTerminal settings container = .ok master) :
    Reaches w line settings caller container
      (onMaster w.onTerminal (w.plainSpec i caller container workdir noReplay words) master)

variable {w : World} {line front words : List Bytes} {settings : Settings} {caller : Caller}
  {container : Container} {spec : Spec}

/-- What gets as far as a door goes through it. -/
lemma run_of_reaches (h : w.Reaches line settings caller container spec) :
    w.run line = w.session container caller.name w.onTerminal
      (w.enterDoor settings container caller.name spec) := by
  cases h with
  | @intro i name workdir noReplay words master hparse hcommand hsettings hcaller hcontainer
      hterminal =>
    simp only [run, hparse, execute, hcommand, withContainer, withSettings, orFail, hsettings,
      withCaller, hcaller, hcontainer, enterContainer, hterminal]
    cases master <;> rfl

/-- There is always a directory to start in. -/
lemma startDirectory_ne_nil (w : World) : w.startDirectory ≠ [] := by
  unfold startDirectory Filesystem.currentPath?
  cases w.files.namesTo w.files.nodes.size w.files.here with
  | none => exact List.cons_ne_nil _ _
  | some names => exact List.cons_ne_nil _ _

/-- The terminal of a container has a path. -/
lemma path_ne_nil_of_containerTerminal {master : Pty.Master}
    (h : w.containerTerminal settings container = .ok (some master)) : master.path ≠ [] := by
  unfold containerTerminal at h
  split at h
  · cases h
  · obtain ⟨master', hrequest, heq⟩ := exists_of_map_eq_ok h
    cases heq
    exact Pty.path_ne_nil_of_request hrequest

/-- **What gets as far as a door can be sent to the helper**, with the variables that suit the
container. -/
lemma Reaches.isSendable (h : w.Reaches line settings caller container spec) :
    spec.IsSendable ∧ spec.environ = container.suit caller.environ := by
  cases h with
  | @intro i name workdir noReplay typed master hparse hcommand hsettings hcaller hcontainer
      hterminal =>
    obtain ⟨hwords, hworkdir⟩ := Invocation.checked_of_parse hparse hcommand
    have hvars := Caller.of_current hcaller
    have henviron : (w.plainSpec i caller container workdir noReplay typed).environ =
        container.suit caller.environ := Environ.ofList_toList _
    have hdirectory : workdir.getD w.startDirectory ≠ [] := by
      cases workdir with
      | none => exact w.startDirectory_ne_nil
      | some directory => exact hworkdir directory rfl
    have hplain : (w.plainSpec i caller container workdir noReplay typed).IsSendable := by
      refine ⟨fun v hv => ?_, fun v hv => ?_, hwords, fun path hpath => ?_, hdirectory⟩
      · rw [henviron] at hv
        exact isVariable_of_forwarded v.1 (hvars v (container.suit_subset _ hv)).1
      · rw [henviron] at hv
        exact (hvars v (container.suit_subset _ hv)).2
      · cases hpath
    cases master with
    | none => exact ⟨hplain, henviron⟩
    | some master =>
      have hmaster := path_ne_nil_of_containerTerminal hterminal
      refine ⟨⟨hplain.names, hplain.environ_isUtf8, hplain.command_isUtf8, fun path hpath => ?_,
        hplain.cwd_ne_nil⟩, henviron⟩
      simp only [onMaster, Spec.change] at hpath
      split at hpath
      · cases hpath
      · cases hpath
        exact hmaster

/-- What gets as far as a door from a line with dashes has the words behind them as its command. -/
lemma isSendable_of_reaches (hfront : [hyphen, hyphen] ∉ front)
    (h : w.Reaches (front ++ [hyphen, hyphen] :: words) settings caller container spec) :
    spec.IsSendable ∧ spec.environ = container.suit caller.environ ∧ spec.command = words := by
  obtain ⟨hs, henviron⟩ := h.isSendable
  refine ⟨hs, henviron, ?_⟩
  cases h with
  | @intro i name workdir noReplay typed master hparse hcommand =>
    obtain rfl := Invocation.words_of_parse hfront hparse hcommand
    cases master <;> rfl

/-! ### Through the door -/

/-- A program that is started is given the words behind its name. -/
lemma words_eq_of_startProgram {environ : List (Bytes × Bytes)} {argv : List Bytes}
    {started : Started} (h : w.startProgram environ argv = .ok started) :
    ∀ sighting ∈ started.sighting, sighting.words = argv.tail := by
  obtain ⟨executable, -, rfl⟩ := exists_of_map_eq_ok h
  intro sighting hsighting
  cases executable with
  | connectHelper => cases hsighting
  | scripted name script =>
    cases hsighting
    exact List.drop_one

/-- A program that is started with words of its own in front of others is given the others last. -/
lemma suffix_of_startProgram {environ : List (Bytes × Bytes)} {own argv : List Bytes} {first : Bytes}
    {started : Started} (h : w.startProgram environ (first :: own ++ argv) = .ok started) :
    ∀ sighting ∈ started.sighting, argv <:+ sighting.words := by
  intro sighting hsighting
  rw [words_eq_of_startProgram h sighting hsighting]
  exact List.suffix_append own argv

/-- The words for the helper are the last ones behind either door. -/
lemma suffix_nsenterArgv (nsenter : Bytes) (leader : Int) (argv : List Bytes) :
    argv <:+ Door.nsenterArgv nsenter leader argv :=
  List.suffix_append _ argv

/-- The words for the helper are the last ones behind either door. -/
lemma suffix_systemdRunArgv (machine unit : Bytes) (label : Option Bytes) (argv : List Bytes) :
    argv <:+ Door.systemdRunArgv machine unit label argv :=
  List.suffix_append _ argv

/-- Behind the door of a container without an init system is the program that enters namespaces. -/
lemma startProgram_of_enterNamespaces {machine : Bytes} {started : Started}
    (h : (w.enterNamespaces settings machine spec).started = some started) :
    ∃ leader, w.startProgram w.markedEnviron (Door.nsenterArgv settings.nsenter leader
      (spec.helperArgv settings.entryHelper settings.loginShell)) = .ok started := by
  unfold enterNamespaces at h
  simp only at h
  split at h
  · cases h
  · split at h
    · cases h
    · next hstarted =>
      cases h
      exact ⟨_, hstarted⟩

/-- Behind the door of a booted container is the program that launches the unit. -/
lemma startProgram_of_enterUnit {machine : Bytes} {started : Started}
    (h : (w.enterUnit settings machine spec).started = some started) :
    w.startProgram w.environ (Door.systemdRunArgv machine w.unit none
      (spec.helperArgv settings.entryHelper settings.loginShell)) = .ok started := by
  unfold enterUnit at h
  simp only at h
  split at h
  · cases h
  · split at h
    · cases h
    · split at h
      · cases h
      · split at h
        · cases h
        · next hstarted =>
          cases h
          exact hstarted

/-- Whatever program a door starts is given the words for the helper, after words of its own. -/
lemma suffix_of_enterDoor {user : Bytes} {started : Started}
    (h : (w.enterDoor settings container user spec).started = some started) :
    ∀ sighting ∈ started.sighting,
      spec.helperArgv settings.entryHelper settings.loginShell <:+ sighting.words := by
  unfold enterDoor at h
  simp only at h
  split at h
  · exact suffix_of_startProgram (startProgram_of_enterUnit h)
  · obtain ⟨leader, hstarted⟩ := startProgram_of_enterNamespaces h
    exact suffix_of_startProgram hstarted

/-- **The typed command is the one that is run, unless it starts with an assignment.**  Whatever
words are typed behind `--`, either door hands on the words for the helper as they are, behind words
of its own, and the helper reads them.  What it reads is the command as it was typed, or a login
shell, with the variables that suit the container and no others, if and only if the first typed word
is no assignment. -/
theorem typed_command_is_read (w : World) (front words : List Bytes) (settings : Settings)
    (caller : Caller) (container : Container) (spec : Spec) (hfront : [hyphen, hyphen] ∉ front)
    (h : w.Reaches (front ++ [hyphen, hyphen] :: words) settings caller container spec)
    (argv : List Bytes) (hargv : argv = spec.helperArgv settings.entryHelper settings.loginShell) :
    (w.run (front ++ [hyphen, hyphen] :: words) = w.session container caller.name w.onTerminal
      (w.enterDoor settings container caller.name spec)) ∧
    (∀ leader, argv <:+ Door.nsenterArgv settings.nsenter leader argv) ∧
    (∀ machine unit label, argv <:+ Door.systemdRunArgv machine unit label argv) ∧
    (∀ started, (w.enterDoor settings container caller.name spec).started = some started →
      ∀ sighting ∈ started.sighting, argv <:+ sighting.words) ∧
    ∃ i, HelperInvocation.parse argv.tail = .ok i ∧
      (splitEnviron i.words = .ok ((container.suit caller.environ).toList,
          if words = [] then [display settings.loginShell, ofString "-l"] else words) ↔
        ∀ word ∈ words.head?, isAssignment word = false) := by
  obtain ⟨hs, henviron, hcommand⟩ := isSendable_of_reaches hfront h
  have hshell : Path.isAbsolute settings.loginShell := by
    cases h with
    | intro _ _ hsettings => exact Settings.isAbsolute_loginShell hsettings
  have hrun : spec.effectiveCommand settings.loginShell =
      if words = [] then [display settings.loginShell, ofString "-l"] else words := by
    rw [Spec.effectiveCommand, hcommand]
    cases words <;> rfl
  have hsame := Spec.splitEnviron_words_iff hs settings.loginShell
  rw [Spec.head_effectiveCommand hshell, henviron, hcommand, hrun] at hsame
  subst hargv
  exact ⟨run_of_reaches h, fun leader => suffix_nsenterArgv _ leader _,
    fun machine unit label => suffix_systemdRunArgv machine unit label _,
    fun started hstarted => suffix_of_enterDoor hstarted,
    _, Spec.parse_helperArgv hs _ _, hsame⟩

/-- A host with one container, which runs without an init system, and with the program that enters
it. -/
def smallHost : World where
  files := {
    nodes := #[.directory 0 [("bin", 1), ("var", 2)], .directory 0 [("nsenter", 8)],
      .directory 0 [("lib", 3)], .directory 2 [("porthole", 4)], .directory 3 [("root", 5)],
      .directory 4 [("dev", 6)], .directory 5 [("config.json", 7)], .file "[false]" 0o644,
      .file [] 0o755]
    here := 0 }
  services := []
  containerBuses := []
  locked := []
  supervisor := []
  programs := [(8, .scripted "nsenter" ⟨[], false, none, false, .exits 0⟩)]
  accounts := [⟨"root", 0, 0, "/root"⟩]
  groupsOf _ := []
  privileges := ⟨none, none, none, none⟩
  environ := [("HOME", "/root"), ("TERM", "vt100")]
  onTerminal := .none
  size := ⟨24, 80, 0, 0⟩
  registry := ⟨false, [("porthole-root-dev", .leader 7)], false⟩
  living := [7]
  unitId := ⟨List.replicate 16 7, rfl⟩
  unitEnd := (none, none)
  intervention := ⟨none, none, none⟩
  texts := ⟨[], fun _ => [], fun _ => [], fun _ => []⟩

/-- The container of that host. -/
def smallContainer : Container := ⟨"dev", "/var/lib/porthole/root/dev", ⟨false⟩⟩

/-- Its caller. -/
def smallCaller : Caller := ⟨0, "root", .ofList [("TERM", "vt100")]⟩

/-- The entry with a typed command. -/
def smallEntry (words : List Bytes) : Spec :=
  smallHost.plainSpec ⟨Settings.standardPath, false, .enter "dev" none false words⟩ smallCaller
    smallContainer none false words

/-- Everything in front of the door is there. -/
lemma reaches_smallEntry (words : List Bytes)
    (hparse : Invocation.parse ([ofString "enter", ofString "dev"] ++ [hyphen, hyphen] :: words) =
      .ok ⟨Settings.standardPath, false, .enter "dev" none false words⟩) :
    smallHost.Reaches ([ofString "enter", ofString "dev"] ++ [hyphen, hyphen] :: words)
      .standard smallCaller smallContainer (smallEntry words) := by
  have hterminal : smallHost.containerTerminal .standard smallContainer = .ok none := by rfl
  exact .intro hparse rfl rfl rfl rfl hterminal

/-- A command that is given variables by a command of its own is run as it was typed. -/
theorem typed_env_is_read :
    smallHost.Reaches ([ofString "enter", ofString "dev"] ++
        [hyphen, hyphen] :: [ofString "env", ofString "A=1", ofString "true"])
      .standard smallCaller smallContainer
      (smallEntry [ofString "env", ofString "A=1", ofString "true"]) ∧
    ∃ i, HelperInvocation.parse
        ((smallEntry [ofString "env", ofString "A=1", ofString "true"]).helperArgv
          Settings.standard.entryHelper Settings.standard.loginShell).tail = .ok i ∧
      splitEnviron i.words = .ok ([(ofString "TERM", ofString "vt100")],
        [ofString "env", ofString "A=1", ofString "true"]) := by
  have hreaches := reaches_smallEntry [ofString "env", ofString "A=1", ofString "true"] rfl
  obtain ⟨-, -, -, -, i, hparse, hsame⟩ := typed_command_is_read smallHost
    [ofString "enter", ofString "dev"] [ofString "env", ofString "A=1", ofString "true"] .standard
    smallCaller smallContainer _ (by decide) hreaches _ rfl
  exact ⟨hreaches, i, hparse, hsame.2 (by decide)⟩

/-- A command that starts with an assignment is not run as it was typed: the caller's variables get
another one, and what is run is the rest. -/
theorem typed_assignment_is_not_read :
    smallHost.Reaches ([ofString "enter", ofString "dev"] ++
        [hyphen, hyphen] :: [ofString "A=1", ofString "true"])
      .standard smallCaller smallContainer (smallEntry [ofString "A=1", ofString "true"]) ∧
    ∃ i, HelperInvocation.parse
        ((smallEntry [ofString "A=1", ofString "true"]).helperArgv
          Settings.standard.entryHelper Settings.standard.loginShell).tail = .ok i ∧
      splitEnviron i.words = .ok
        ([(ofString "TERM", ofString "vt100"), (ofString "A", ofString "1")],
          [ofString "true"]) ∧
      splitEnviron i.words ≠ .ok ((smallContainer.suit smallCaller.environ).toList,
        [ofString "A=1", ofString "true"]) := by
  have hreaches := reaches_smallEntry [ofString "A=1", ofString "true"] rfl
  obtain ⟨hs, -, -⟩ := isSendable_of_reaches (by decide) hreaches
  have hsplit := Spec.splitEnviron_words hs Settings.standard.loginShell
  refine ⟨hreaches, _, Spec.parse_helperArgv hs _ _, hsplit, ?_⟩
  intro h
  have hcommand := (Prod.mk.inj (Except.ok.inj (hsplit.symm.trans h))).2
  revert hcommand
  decide

end World

end ContainerEntry
