import Mathlib
import ContainerEntry.Proofs.CommandLine.Arguments
import ContainerEntry.Proofs.Inventory
import ContainerEntry.Proofs.World.TypedCommand

/-!
# Which containers a command line can name

A container's name may start with a hyphen.  The subcommands that stop and describe a container take
any name behind `--`.  The one that enters a container reserves the words behind `--` for the
command, and in front of them a name that starts with a hyphen and goes on is read as options.

* **What can be asked for is written down** (`isTypeable_enter`, `isTypeable_kill`,
  `isTypeable_info`): options with their values attached to them, then the name, in front of the
  dashes or behind them.
* **No line enters a container whose name looks like options** (`not_looksLikeOption_of_enter`),
  whatever options and arguments stand in it.

`isTypeable_enter_iff` puts them together, and says what it means for the containers of a listing.
-/

namespace ContainerEntry

open Bytes Text Entry CommandLine

namespace CommandLine

/-! ### Levels that ask for a container -/

/-- Some command line asks for the command. -/
def Command.IsTypeable (c : Command) : Prop :=
  ∃ line i, Invocation.parse line = .ok i ∧ i.command = c

/-- The level of the host's subcommand that stops a container. -/
def killLevel : Level := (hostGrammar.subcommands.lookup (ofString "kill")).getD ⟨[], [], []⟩

/-- The level of the host's subcommand that describes a container. -/
def infoLevel : Level := (hostGrammar.subcommands.lookup (ofString "info")).getD ⟨[], [], []⟩

/-- Entering, stopping and describing ask for a container. -/
lemma asks_containerArgument :
    ∀ l ∈ [enterLevel, killLevel, infoLevel], l.Asks containerArgument := by
  have hall : ∀ l ∈ [enterLevel, killLevel, infoLevel],
      l.positionals[0]? = some containerArgument ∧
      (∀ b ∈ l.positionals, b.isRequired → b = containerArgument) ∧
      (∀ o ∈ l.options, o.isRequired = false) ∧
      (∀ o ∈ l.options, o.long ≠ containerArgument.name) ∧ l.subcommands = [] := by
    decide
  intro l hl
  obtain ⟨hfirst, hothers, hoptions, hnames, hsubcommands⟩ := hall l hl
  exact ⟨hfirst, rfl, hothers, hoptions, hnames, hsubcommands⟩

/-- Entering asks for a container. -/
lemma enterLevel_asks : enterLevel.Asks containerArgument :=
  asks_containerArgument _ (by simp)

/-- A text suits the argument that names a container. -/
lemma refusal?_containerArgument {name : Bytes} (hname : isUtf8 name) :
    containerArgument.kind.refusal? name = none := by
  simp [containerArgument, Kind.refusal?, hname]

variable {name : Bytes} {workdir : Option Bytes} {noReplay : Bool} {words : List Bytes}

/-! ### What can be asked for -/

/-- A line with a subcommand that reads the rest is a command line. -/
lemma Command.isTypeable_of_complete {subcommand : Bytes} {level : Level} {rest : List Bytes}
    {q : Progress} {given : Given}
    (hlookup : hostGrammar.subcommands.lookup subcommand = some level)
    (hname : subcommand ≠ Grammar.helpName) (hread : level.read .start rest = .ok (.words q))
    (hcomplete : level.complete q = .ok given) : (Command.ofGiven subcommand given).IsTypeable := by
  have hoptions : ∀ o ∈ hostGrammar.options, o.isRequired = false := by decide
  have hparse := Grammar.parse_subcommand hlookup hname hoptions hread hcomplete
  exact ⟨subcommand :: rest, _, congrArg (Except.map _) hparse, rfl⟩

/-- The options of a command that enters a container. -/
def enterOptions (workdir : Option Bytes) (noReplay : Bool) : List (Bytes × Option Bytes) :=
  (workdir.toList.map fun directory => (ofString "workdir", some directory)) ++
    if noReplay then [(ofString "no-replay", none)] else []

/-- The options of a command that stops a container. -/
def killOptions (signal : StopSignal) (everyProcess : Bool) : List (Bytes × Option Bytes) :=
  [(ofString "signal", some signal.name)] ++
    if everyProcess then [(ofString "all", none)] else []

/-- A directory that is not empty fits. -/
lemma enterOptions_fit (hworkdir : ∀ directory ∈ workdir, directory ≠ []) :
    enterLevel.Fits (enterOptions workdir noReplay) := by
  refine .of_taken (by decide) (fun e he => ?_) ?_
  · rcases List.mem_append.1 he with he | he
    · obtain ⟨directory, hmem, rfl⟩ := List.mem_map.1 he
      have hdirectory : Kind.path.refusal? directory = none := by
        simp [Kind.refusal?, hworkdir directory (Option.mem_toList.1 hmem)]
      exact ⟨_, rfl, .path, rfl, hdirectory⟩
    · cases noReplay with
      | false => cases he
      | true =>
        obtain rfl := List.mem_singleton.1 he
        exact ⟨_, rfl, rfl⟩
  · have hnames : [ofString "workdir", ofString "no-replay"].Nodup := by decide
    have honce : (workdir.toList.map fun _ => ofString "workdir").Sublist [ofString "workdir"] := by
      cases workdir with
      | none => exact List.nil_sublist _
      | some _ => exact .refl _
    rw [enterOptions, List.map_append, List.map_map]
    exact hnames.sublist (honce.append ((Spec.sublist_flag noReplay
      (ofString "no-replay", (none : Option Bytes))).map Prod.fst))

/-- Every request to stop a container fits. -/
lemma killOptions_fit (signal : StopSignal) (everyProcess : Bool) :
    killLevel.Fits (killOptions signal everyProcess) := by
  refine .of_taken (by decide) (fun e he => ?_) ?_
  · rcases List.mem_append.1 he with he | he
    · obtain rfl := List.mem_singleton.1 he
      exact ⟨_, rfl, _, rfl, by cases signal <;> decide⟩
    · cases everyProcess with
      | false => cases he
      | true =>
        obtain rfl := List.mem_singleton.1 he
        exact ⟨_, rfl, rfl⟩
  · have hnames : [ofString "signal", ofString "all"].Nodup := by decide
    rw [killOptions, List.map_append]
    exact hnames.sublist ((List.Sublist.refl _).append ((Spec.sublist_flag everyProcess
      (ofString "all", (none : Option Bytes))).map Prod.fst))

/-- What is noted for a line that enters a container makes the command. -/
lemma ofGiven_enter (name : Bytes) (workdir : Option Bytes) (noReplay : Bool)
    (words : List Bytes) :
    Command.ofGiven (ofString "enter") (Level.notedAs (enterOptions workdir noReplay) ++
        (containerArgument.name, [name]) ::
          if words = [] then [] else [(commandArgument.name, words)]) =
      .enter name workdir noReplay words := by
  cases workdir <;> cases noReplay <;> cases words <;>
    simp +decide [Command.ofGiven, Level.notedAs, enterOptions, Given.value?, Given.values,
      Given.has, containerArgument, commandArgument]

/-- What is noted for a line that stops a container makes the command. -/
lemma ofGiven_kill (name : Bytes) (signal : StopSignal) (everyProcess : Bool) :
    Command.ofGiven (ofString "kill") (Level.notedAs (killOptions signal everyProcess) ++
        [(containerArgument.name, [name])]) = .kill name signal everyProcess := by
  have hsignal : StopSignal.ofSpelling? signal.name false = some signal := by
    cases signal <;> decide
  cases everyProcess <;>
    simp +decide [Command.ofGiven, Level.notedAs, killOptions, Given.value?, Given.values,
      Given.has, containerArgument, hsignal]

/-- What is noted for a line that describes a container makes the command. -/
lemma ofGiven_info (name : Bytes) :
    Command.ofGiven (ofString "info") [(containerArgument.name, [name])] = .info name := by
  simp +decide [Command.ofGiven, Given.value?, Given.values, containerArgument]

/-- A name that does not look like options can be entered, with everything else that can be asked
for. -/
lemma isTypeable_enter (hname : isUtf8 name) (hlooks : looksLikeOption name = false)
    (hworkdir : ∀ directory ∈ workdir, directory ≠ []) (hwords : ∀ word ∈ words, isUtf8 word) :
    (Command.enter name workdir noReplay words).IsTypeable := by
  have hkinds : ∀ word ∈ words, commandArgument.kind.refusal? word = none := by
    intro word hword
    simp [commandArgument, Kind.refusal?, hwords word hword]
  obtain ⟨q, hread, hcomplete⟩ := enterLevel_asks.exists_complete_front enterLevel_reserves
    (by decide) (enterOptions_fit hworkdir) hlooks (refusal?_containerArgument hname) hkinds
  rw [← ofGiven_enter name workdir noReplay words]
  exact Command.isTypeable_of_complete rfl (by decide) hread hcomplete

/-- A container of any name can be stopped. -/
lemma isTypeable_kill (hname : isUtf8 name) (signal : StopSignal) (everyProcess : Bool) :
    (Command.kill name signal everyProcess).IsTypeable := by
  have hasks : killLevel.Asks containerArgument := asks_containerArgument _ (by simp)
  obtain ⟨q, hread, hcomplete⟩ := hasks.exists_complete_behind (by decide)
    (killOptions_fit signal everyProcess) (refusal?_containerArgument hname)
  rw [← ofGiven_kill]
  exact Command.isTypeable_of_complete rfl (by decide) hread hcomplete

/-- A container of any name can be described. -/
lemma isTypeable_info (hname : isUtf8 name) : (Command.info name).IsTypeable := by
  have hasks : infoLevel.Asks containerArgument := asks_containerArgument _ (by simp)
  have hfits : infoLevel.Fits [] := ⟨by simp, List.nodup_nil⟩
  obtain ⟨q, hread, hcomplete⟩ := hasks.exists_complete_behind (by decide) hfits
    (refusal?_containerArgument hname)
  rw [← ofGiven_info]
  exact Command.isTypeable_of_complete rfl (by decide) hread hcomplete

/-! ### What cannot be entered -/

/-- **A container that is entered has a name that does not look like options**, whatever the line.
-/
lemma not_looksLikeOption_of_enter (h : (Command.enter name workdir noReplay words).IsTypeable) :
    looksLikeOption name = false := by
  obtain ⟨line, i, hparse, hcommand⟩ := h
  obtain ⟨p, rest, q, given, -, hread, hcomplete, rfl, -, -⟩ :=
    Invocation.enterLevel_of_parse hparse hcommand
  have hplain := Level.not_looksLikeOption_of_read enterLevel_reserves enterLevel_asks.names
    (by decide) hread hcomplete
  cases hvalue : given.value? containerArgument.name with
  | none => rfl
  | some value => exact hplain value (List.mem_of_head? hvalue)

/-! ### Every container -/

/-- **A container can be entered if and only if its name does not look like options.**  For every
name of a container,

* a line that asks to enter the container, with a directory that is not empty or none, with or
  without the replay, and with any texts as the command, exists if and only if the name does not
  start with a hyphen and go on;
* some line asks to stop the container, whatever the request; and
* some line asks to describe it.

So a container that is listed can be entered in some way if and only if its name does not look like
options. -/
theorem isTypeable_enter_iff (name : Bytes) (hname : Container.isName name) :
    (∀ workdir noReplay words, (∀ directory ∈ workdir, directory ≠ []) →
      (∀ word ∈ words, isUtf8 word) →
      ((Command.enter name workdir noReplay words).IsTypeable ↔ looksLikeOption name = false)) ∧
    (∀ signal everyProcess, (Command.kill name signal everyProcess).IsTypeable) ∧
    (Command.info name).IsTypeable ∧
    ∀ files dataDir user containers, Inventory.list files dataDir user = .ok containers →
      ∀ c ∈ containers,
        (∃ workdir noReplay words, (Command.enter c.name workdir noReplay words).IsTypeable) ↔
          looksLikeOption c.name = false := by
  have htext := Container.isUtf8_of_isName hname
  refine ⟨fun workdir noReplay words hworkdir hwords => ?_, isTypeable_kill htext,
    isTypeable_info htext, fun files dataDir user containers hlist c hc => ?_⟩
  · exact ⟨not_looksLikeOption_of_enter,
      fun hlooks => isTypeable_enter htext hlooks hworkdir hwords⟩
  · have hopen := ((Inventory.mem_list_iff hlist).1 hc).2
    have hlisted := Container.isUtf8_of_isName (Container.of_openNamed hopen).1
    constructor
    · rintro ⟨workdir, noReplay, words, htypeable⟩
      exact not_looksLikeOption_of_enter htypeable
    · intro hlooks
      exact ⟨none, false, [], isTypeable_enter hlisted hlooks (by simp) (by simp)⟩

/-- A name of a hyphen alone is no option: its container can be entered, in a directory and with a
command.  And the container that the small host lists can be entered. -/
theorem isTypeable_enter_hyphen :
    Container.isName [hyphen] ∧
      (Command.enter [hyphen] (some "/srv") true ["ls", "-l"]).IsTypeable ∧
      Inventory.list World.smallHost.files "/var/lib/porthole" "root" =
        .ok [World.smallContainer] ∧
      ∃ workdir noReplay words,
        (Command.enter World.smallContainer.name workdir noReplay words).IsTypeable := by
  have hunsorted : Inventory.list World.smallHost.files "/var/lib/porthole" "root" =
      .ok (Inventory.sorted [World.smallContainer]) := by
    rfl
  have hlist : Inventory.list World.smallHost.files "/var/lib/porthole" "root" =
      .ok [World.smallContainer] := by
    rw [hunsorted, Inventory.sorted, List.mergeSort_singleton]
  have hname : Container.isName [hyphen] := by decide
  obtain ⟨henter, -, -, hlisted⟩ := isTypeable_enter_iff [hyphen] hname
  refine ⟨hname, ?_, hlist, ?_⟩
  · exact (henter (some "/srv") true ["ls", "-l"] (by decide) (by decide)).2 rfl
  · exact (hlisted _ _ _ _ hlist _ (List.mem_singleton_self _)).2 (by decide)

/-- A tree with one container, whose name starts with a hyphen and goes on. -/
def hyphenTree : Filesystem where
  nodes := #[.directory 0 [("data", 1)], .directory 0 [("user", 2)], .directory 1 [("-dev", 3)],
    .directory 2 [("config.json", 4)], .file "{}" 0o644]
  here := 0

/-- The container is listed, and some line asks to describe it, but no line whatever asks to enter
it. -/
theorem hyphen_name_is_not_entered :
    Container.isName "-dev" ∧
      Inventory.list hyphenTree "/data" "user" = .ok [⟨"-dev", "/data/user/-dev", ⟨false⟩⟩] ∧
      Invocation.parse ["info", "--", "-dev"] =
        .ok ⟨Settings.standardPath, false, .info "-dev"⟩ ∧
      Invocation.parse ["enter", "-dev"] = .error .unknownArgument ∧
      Invocation.parse ["enter", "--", "-dev"] = .error .missingRequiredArgument ∧
      ∀ workdir noReplay words, ¬ (Command.enter "-dev" workdir noReplay words).IsTypeable := by
  have hunsorted : Inventory.list hyphenTree "/data" "user" =
      .ok (Inventory.sorted [⟨"-dev", "/data/user/-dev", ⟨false⟩⟩]) := by
    rfl
  refine ⟨by decide, ?_, rfl, rfl, rfl, fun workdir noReplay words htypeable => ?_⟩
  · rw [hunsorted, Inventory.sorted, List.mergeSort_singleton]
  · exact absurd (not_looksLikeOption_of_enter htypeable) (by decide)

end CommandLine

end ContainerEntry
