import Mathlib
import ContainerEntry.Proofs.Door.BusLabel
import ContainerEntry.Proofs.Entry.Launch
import ContainerEntry.Proofs.World.MachineName

/-!
# The unit that is launched, signalled and asked about

An entry into a booted container names its unit three times: in the words that launch it, in the
words that signal it, and in the path on the bus under which its end is read.  Each name can be read
back from where it stands, and all three are the name of the world's next unit.

* **The words name the unit** (`launchedUnit?_systemdRunArgv`, `signalledUnit?_systemctlKillArgv`):
  the one stands behind an option of its own, in front of the words for the helper, and the other is
  the last word that is no option.
* **A session adds little to its door** (`isOfSession_session`): the reading of the unit's
  properties and the signals for the unit.
* **A run asks about the unit that it launches and signals** (`isAboutUnit_session`,
  `isAboutUnit_run`): nothing but a session of a booted container reads an object on the bus.

`unit_paths_correspond` puts them together with what is known of labels.
-/

namespace ContainerEntry

open Bytes

namespace Door

/-! ### The unit in words and in paths -/

/-- Where units are published on the bus. -/
def unitPrefix : Bytes := "/org/freedesktop/systemd1/unit/"

/-- The unit that is published under a path, if one is. -/
def unitOfPath? (path : Bytes) : Option Bytes := (skipWord unitPrefix path).bind ofBusLabel?

/-- The unit that the words behind a program's name ask for: the text of an option in front of the
words that are passed on. -/
def launchedUnit? (words : List Bytes) : Option Bytes :=
  (words.takeWhile (· ≠ ofString "--")).findSome? (skipWord "--unit=")

/-- The unit that the words behind a program's name signal: the one behind the verb, when options
are left out. -/
def signalledUnit? (words : List Bytes) : Option Bytes :=
  match words.filter fun word => word.head? ≠ some hyphen with
  | [verb, unit] => if verb = "kill" then some unit else none
  | _ => none

/-- A word is skipped in front of any text. -/
lemma skipWord_append (word text : Bytes) : skipWord word (word ++ text) = some text := by
  rw [skipWord, if_pos (List.isPrefixOf_iff_prefix.2 (List.prefix_append word text)),
    List.drop_left]

/-- **A unit is read back from its path.** -/
lemma unitOfPath?_unitPath (unit : Bytes) : unitOfPath? (unitPath unit) = some unit := by
  rw [unitOfPath?, show unitPath unit = unitPrefix ++ busLabel unit from rfl, skipWord_append,
    Option.bind_some, ofBusLabel?_busLabel]

/-- Different units have different paths. -/
lemma unitPath_injective : Function.Injective unitPath := by
  intro a b h
  have hread := unitOfPath?_unitPath a
  rw [h, unitOfPath?_unitPath] at hread
  exact (Option.some.inj hread).symm

/-- **The words that run the helper as a unit name that unit**, whatever the machine, the label and
the words for the helper are. -/
lemma launchedUnit?_systemdRunArgv (machine unit : Bytes) (label : Option Bytes)
    (argv : List Bytes) :
    launchedUnit? (systemdRunArgv machine unit label argv).tail = some unit := by
  obtain ⟨behind, hfront⟩ : ∃ behind,
      (systemdRunArgv machine unit label argv).tail.takeWhile (· ≠ ofString "--") =
        [ofString "--quiet", ofString "--pipe", "--machine=" ++ machine, "--unit=" ++ unit] ++
          behind := by
    cases label <;> exact ⟨_, rfl⟩
  rw [launchedUnit?, hfront, List.findSome?_append]
  exact congrArg (Option.or · _) (skipWord_append "--unit=" unit)

/-- **The words that signal a unit name that unit**, if it does not look like an option. -/
lemma signalledUnit?_systemctlKillArgv {unit : Bytes} (hunit : unit.head? ≠ some hyphen)
    (machine : Bytes) (signal : Int) :
    signalledUnit? (systemctlKillArgv machine unit signal).tail = some unit := by
  have hwords : (systemctlKillArgv machine unit signal).tail.filter
      (fun word => word.head? ≠ some hyphen) = [ofString "kill", unit] := by
    have hkept : [unit].filter (fun word => word.head? ≠ some hyphen) = [unit] := by
      simpa using hunit
    exact congrArg (ofString "kill" :: ·) hkept
  rw [signalledUnit?, hwords]
  rfl

/-- The name of a unit does not look like an option. -/
lemma head?_unitName (id : UnitId) : (unitName id).head? ≠ some hyphen := by
  rw [unitName, List.append_assoc]
  intro h
  cases h

end Door

/-- The path of the object whose property a call reads. -/
def BusCall.objectPath? : BusCall → Option Bytes
  | .getProperty _ _ label => some (Door.unitPrefix ++ label)
  | _ => none

namespace World

open Door Entry CommandLine

variable {w : World} {call : BusCall} {seen : Sighting}

/-! ### What is written is no call -/

/-- Writing calls nothing. -/
@[simp] lemma calls_write (w : World) (r : Report) (stream : Stream) (bytes : Bytes) :
    (w.write r stream bytes).calls = r.calls := by
  unfold write Report.write
  split
  · rfl
  · cases stream <;> rfl

/-- A failure calls nothing. -/
@[simp] lemma calls_fail (w : World) (r : Report) (failure : Failure) :
    (w.fail r failure).calls = r.calls :=
  calls_write w r _ _

/-- A failure is no sighting. -/
lemma sightings_fail (w : World) (r : Report) (failure : Failure) :
    (w.fail r failure).sightings = r.sightings :=
  sightings_write w r _ _

/-! ### Sessions -/

/-- A report of a session shows nothing but what the door did, the reading of the unit's properties,
and the signals for the unit. -/
structure IsOfSession (w : World) (container : Container) (user : Bytes) (streams : Streams)
    (passage : Passage) (r : Report) : Prop where
  /-- A call is the door's, or, in a booted container, one that reads the unit's end. -/
  calls : ∀ call ∈ r.calls, call ∈ passage.calls ∨
    container.config.boot = true ∧ call ∈ (w.unitStatus w.unit).2
  /-- A program is one that signals the unit, or the one behind the door. -/
  sightings : ∀ seen ∈ r.sightings,
    seen ∈ w.unitSignalled container.config.boot streams (container.machineName user) ∨
      ∃ started ∈ passage.started, ∃ s ∈ started.sighting, seen.words = s.words

/-- What was seen of a session keeps the words. -/
lemma words_sightingOf (w : World) (boot : Bool) (streams : Streams) (script : Script)
    (s : Sighting) : (w.sightingOf boot streams script s).words = s.words := by
  unfold sightingOf
  split <;> rfl

/-- Only a booted container has a unit whose end is read. -/
lemma mem_workloadStatus {boot : Bool} {script : Script}
    (h : call ∈ (w.workloadStatus boot script).2) :
    boot = true ∧ call ∈ (w.unitStatus w.unit).2 := by
  unfold workloadStatus at h
  split at h
  · next hboot => exact ⟨hboot, h⟩
  · cases h

/-- What is seen of a session is a program that signals the unit, or the one behind the door. -/
lemma of_mem_seen {signals : List Sighting} {boot : Bool} {streams : Streams} {script : Script}
    {passage : Passage} {started : Started} (hstarted : passage.started = some started)
    (h : seen ∈ signals ++ (started.sighting.map (w.sightingOf boot streams script)).toList) :
    seen ∈ signals ∨ ∃ started ∈ passage.started, ∃ s ∈ started.sighting, seen.words = s.words := by
  rw [List.mem_append, Option.mem_toList, Option.map_eq_some_iff] at h
  apply h.imp id
  rintro ⟨s, hs, rfl⟩
  exact ⟨started, hstarted, s, hs, words_sightingOf w boot streams script s⟩

/-- **A session adds little to its door.** -/
lemma isOfSession_session (w : World) (container : Container) (user : Bytes) (streams : Streams)
    (passage : Passage) :
    w.IsOfSession container user streams passage
      (w.session container user streams passage) := by
  unfold session
  dsimp only
  generalize (passage.started.map (·.script)).getD ⟨[], false, none, false, .exits 0⟩ = script
  split
  · refine ⟨fun call hcall => .inl (by simpa using hcall), fun seen hseen => ?_⟩
    simp [sightings_fail, sightings_write] at hseen
  · refine ⟨fun call hcall => .inl (by simpa using hcall), fun seen hseen => ?_⟩
    simp [sightings_write] at hseen
  · next started hstarted hreplaced =>
    refine ⟨fun call hcall => .inl (by simpa using hcall), fun seen hseen => .inr ?_⟩
    exact ⟨started, hstarted, seen, Option.mem_toList.1 hseen, rfl⟩
  · next started result hstarted hreturned =>
    -- where the output goes makes no difference to the calls
    generalize hr : (if streams.isEmpty = true then _ else _ : Report) = r
    have hcalls : r.calls = passage.calls := by
      rw [← hr]
      split_ifs <;> simp [Report.appear]
    have hall : ∀ call ∈ r.calls ++ (w.workloadStatus container.config.boot script).2,
        call ∈ passage.calls ∨ container.config.boot = true ∧ call ∈ (w.unitStatus w.unit).2 := by
      intro call hcall
      rw [List.mem_append, hcalls] at hcall
      exact hcall.imp id mem_workloadStatus
    split
    · exact ⟨fun call hcall => .inl (hcalls ▸ hcall), fun seen => of_mem_seen hstarted⟩
    · split
      · exact ⟨hall, fun seen => of_mem_seen hstarted⟩
      · refine ⟨fun call hcall => hall call ?_, fun seen hseen => ?_⟩
        · rwa [calls_fail] at hcall
        · rw [sightings_fail] at hseen
          exact of_mem_seen hstarted hseen

/-! ### The unit of a session -/

/-- A program that signals the unit is given words that name it. -/
lemma signalledUnit?_of_mem {boot : Bool} {streams : Streams} {machine : Bytes}
    (h : seen ∈ w.unitSignalled boot streams machine) :
    signalledUnit? seen.words = some w.unit := by
  unfold unitSignalled at h
  split at h
  · dsimp only at h
    split at h
    · next signal _ started hstarted =>
      rw [words_eq_of_startProgram hstarted seen (Option.mem_toList.1 h)]
      exact signalledUnit?_systemctlKillArgv (head?_unitName w.unitId) machine _
    · cases h
  · cases h

/-- How a unit ended is read under its path. -/
lemma objectPath?_of_mem_unitStatus {unit : Bytes} (h : call ∈ (w.unitStatus unit).2) :
    call.objectPath? = some (unitPath unit) := by
  unfold unitStatus at h
  dsimp only at h
  split at h <;> simp only [List.mem_cons, List.not_mem_nil, or_false] at h
  · rw [h]
    rfl
  · rcases h with rfl | rfl <;> rfl
  · rcases h with rfl | rfl <;> rfl

/-- Whatever object's properties are read, it is the world's next unit, and then every program is
given words that launch or signal that unit. -/
def IsAboutUnit (w : World) (r : Report) : Prop :=
  ∀ call ∈ r.calls, ∀ path ∈ call.objectPath?, path = unitPath w.unit ∧
    ∀ seen ∈ r.sightings,
      launchedUnit? seen.words = some w.unit ∨ signalledUnit? seen.words = some w.unit

/-- What reads no object is about the unit. -/
lemma isAboutUnit_of_forall {r : Report} (h : ∀ call ∈ r.calls, call.objectPath? = none) :
    w.IsAboutUnit r := by
  intro call hcall path hpath
  rw [h call hcall] at hpath
  cases hpath

/-- What calls nothing is about the unit. -/
lemma isAboutUnit_of_calls_eq_nil {r : Report} (h : r.calls = []) : w.IsAboutUnit r :=
  isAboutUnit_of_forall (by simp [h])

/-- **An entry asks about the unit that it launches and signals.** -/
lemma isAboutUnit_session (w : World) (settings : Settings) (container : Container)
    (user : Bytes) (streams : Streams) (spec : Spec) :
    w.IsAboutUnit (w.session container user streams
      (w.enterDoor settings container user spec)) := by
  have hsession := isOfSession_session w container user streams
    (w.enterDoor settings container user spec)
  intro call hcall path hpath
  rcases hsession.calls call hcall with hdoor | ⟨hboot, hstatus⟩
  · rw [calls_enterDoor] at hdoor
    rw [Registry.eq_getMachine_of_mem_find hdoor] at hpath
    cases hpath
  · rw [objectPath?_of_mem_unitStatus hstatus] at hpath
    refine ⟨(Option.some.inj hpath).symm, fun seen hseen => ?_⟩
    rcases hsession.sightings seen hseen with hsignal | ⟨started, hstarted, s, hs, hwords⟩
    · exact .inr (signalledUnit?_of_mem hsignal)
    · left
      simp only [enterDoor, hboot, if_true] at hstarted
      rw [hwords, words_eq_of_startProgram (startProgram_of_enterUnit hstarted) s hs]
      exact launchedUnit?_systemdRunArgv _ _ _ _

/-! ### Runs -/

/-- A run that goes on with a value asks about the unit if what follows does. -/
lemma IsAboutUnit.orFail {α : Type} {value : Except Failure α} {next : α → Report}
    (hnext : ∀ a, w.IsAboutUnit (next a)) : w.IsAboutUnit (w.orFail value next) := by
  unfold World.orFail
  split
  · exact isAboutUnit_of_calls_eq_nil (calls_fail w _ _)
  · exact hnext _

/-- A run that goes on with a caller asks about the unit if what follows does. -/
lemma IsAboutUnit.withSettings {config : Bytes} {next : Settings → Caller → Report}
    (hnext : ∀ settings caller, w.IsAboutUnit (next settings caller)) :
    w.IsAboutUnit (w.withSettings config next) := by
  apply IsAboutUnit.orFail
  intro settings
  unfold withCaller
  split
  · exact isAboutUnit_of_calls_eq_nil (calls_fail w _ _)
  · exact isAboutUnit_of_calls_eq_nil (calls_write w _ _ _)
  · exact hnext _ _

/-- A run that goes on with a container asks about the unit if what follows does. -/
lemma IsAboutUnit.withContainer {config name : Bytes}
    {next : Settings → Caller → Container → Report}
    (hnext : ∀ settings caller container, w.IsAboutUnit (next settings caller container)) :
    w.IsAboutUnit (w.withContainer config name next) := by
  apply IsAboutUnit.withSettings
  intro settings caller
  apply IsAboutUnit.orFail
  exact hnext settings caller

/-- A stop reads no object. -/
lemma isAboutUnit_stopContainer (w : World) (caller : Caller) (container : Container)
    (signal : StopSignal) (everyProcess : Bool) :
    w.IsAboutUnit (w.stopContainer caller container signal everyProcess) := by
  have hstop : ∀ call ∈ (stop w.registry ⟨w.files, w.locked⟩ w.supervisor container caller.name
      signal everyProcess).calls, call.objectPath? = none := by
    intro call hcall
    rw [calls_stop] at hcall
    split at hcall
    · cases hcall
    · rw [Registry.eq_killMachine_of_mem_kill hcall]
      rfl
  apply isAboutUnit_of_forall
  unfold stopContainer
  dsimp only
  split <;> simpa [Report.exit] using hstop

/-- **A run asks about the unit that it launches and signals.** -/
lemma isAboutUnit_run (w : World) (line : List Bytes) : w.IsAboutUnit (w.run line) := by
  unfold run
  split
  · exact isAboutUnit_of_calls_eq_nil (calls_write w _ _ _)
  · unfold execute
    split
    · exact isAboutUnit_of_calls_eq_nil (calls_write w _ _ _)
    · apply IsAboutUnit.withContainer
      intro settings caller container
      apply IsAboutUnit.orFail
      intro master
      exact isAboutUnit_session w settings container caller.name w.onTerminal _
    · apply IsAboutUnit.withSettings
      intro settings caller
      apply IsAboutUnit.orFail
      intro containers
      apply IsAboutUnit.orFail
      intro kept
      exact isAboutUnit_of_calls_eq_nil (calls_write w _ _ _)
    · apply IsAboutUnit.withContainer
      intro settings caller container
      apply isAboutUnit_of_forall
      intro call hcall
      have hfind : call ∈ (w.registry.find (container.machineName caller.name)).2 := by
        simpa [Inventory.Info.gather, Report.exit] using hcall
      rw [Registry.eq_getMachine_of_mem_find hfind]
      rfl
    · apply IsAboutUnit.withContainer
      intro settings caller container
      exact isAboutUnit_stopContainer w caller container _ _

/-- **Units and paths on the bus correspond one to one.**  Every text has a label that may stand in
a path and is read back from it, so different texts have different labels.  The words that launch
the unit of an identifier, the words that signal it and the path that it is published under all give
back its name, whatever else the words hold.  And in every run the object whose properties are read
is the unit that the programs were given; runs with different identifiers never read the same
object. -/
theorem unit_paths_correspond :
    (∀ text, IsPathElement (busLabel text) ∧ ofBusLabel? (busLabel text) = some text) ∧
    Function.Injective busLabel ∧
    (∀ (id : UnitId) (machine : Bytes) (label : Option Bytes) (argv : List Bytes) (signal : Int),
      launchedUnit? (systemdRunArgv machine (unitName id) label argv).tail = some (unitName id) ∧
      signalledUnit? (systemctlKillArgv machine (unitName id) signal).tail = some (unitName id) ∧
      unitOfPath? (unitPath (unitName id)) = some (unitName id)) ∧
    (∀ (w : World) (line : List Bytes), ∀ call ∈ (w.run line).calls, ∀ path ∈ call.objectPath?,
      unitOfPath? path = some w.unit ∧ ∀ seen ∈ (w.run line).sightings,
        launchedUnit? seen.words = some w.unit ∨ signalledUnit? seen.words = some w.unit) ∧
    ∀ (w w' : World) (line line' : List Bytes), w.unitId ≠ w'.unitId →
      ∀ call ∈ (w.run line).calls, ∀ call' ∈ (w'.run line').calls,
        ∀ path ∈ call.objectPath?, path ∉ call'.objectPath? := by
  refine ⟨fun text => ⟨isPathElement_busLabel text, ofBusLabel?_busLabel text⟩, busLabel_injective,
    fun id machine label argv signal => ?_, fun w line call hcall path hpath => ?_,
    fun w w' line line' hne call hcall call' hcall' path hpath hpath' => ?_⟩
  · exact ⟨launchedUnit?_systemdRunArgv machine _ label argv,
      signalledUnit?_systemctlKillArgv (head?_unitName id) machine signal,
      unitOfPath?_unitPath _⟩
  · obtain ⟨rfl, hwords⟩ := isAboutUnit_run w line call hcall path hpath
    exact ⟨unitOfPath?_unitPath w.unit, hwords⟩
  · have hunit := (isAboutUnit_run w line call hcall path hpath).1
    have hunit' := (isAboutUnit_run w' line' call' hcall' path hpath').1
    exact hne (unitName_injective (unitPath_injective (hunit.symm.trans hunit')))

/-- A host with one container, which is booted, and with the programs that enter it. -/
def bootedHost : World :=
  { smallHost with
    files := {
      nodes := #[.directory 0 [("bin", 1), ("run", 2), ("usr", 5), ("var", 9)],
        .directory 0 [("systemd-run", 3)], .directory 0 [("dbus", 4)], .file [] 0o755,
        .directory 2 [("system_bus_socket", 15)], .directory 0 [("libexec", 6)],
        .directory 5 [("porthole", 7)], .directory 6 [("porthole-nsconnect", 8)], .file [] 0o755,
        .directory 0 [("lib", 10)], .directory 9 [("porthole", 11)], .directory 10 [("root", 12)],
        .directory 11 [("dev", 13)], .directory 12 [("config.json", 14)], .file "[true]" 0o644,
        .socket]
      here := 0 }
    containerBuses := [15]
    programs := [(3, .scripted "systemd-run" ⟨[], false, none, false, .exits 0⟩),
      (8, .connectHelper)]
    unitEnd := (some 1, some 0) }

/-- The report of an entry into the container of that host. -/
def bootedReport : Report := bootedHost.run [ofString "enter", ofString "dev"]

/-- An entry into a booted container launches the unit that it then reads twice. -/
theorem unit_paths_correspond_booted :
    bootedReport.calls.filterMap BusCall.objectPath? =
      [unitPath bootedHost.unit, unitPath bootedHost.unit] ∧
    bootedReport.sightings.map (fun seen => launchedUnit? seen.words) = [some bootedHost.unit] ∧
    unitOfPath? (unitPath bootedHost.unit) = some bootedHost.unit := by
  have hread : bootedReport.calls.filterMap BusCall.objectPath? =
      [unitPath bootedHost.unit, unitPath bootedHost.unit] := by
    rfl
  obtain ⟨call, hcall, hpath⟩ := List.mem_filterMap.1 (hread ▸ List.mem_cons_self)
  have hunit := (unit_paths_correspond.2.2.2.1 bootedHost _ call hcall _ hpath).1
  exact ⟨hread, rfl, hunit⟩

end World

end ContainerEntry
