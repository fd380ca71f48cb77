import Mathlib
import ContainerEntry.Proofs.Filesystem.Below
import ContainerEntry.Proofs.Settings

/-!
# What a settings file decides

A settings file says something of each setting or nothing, whatever it says of the others, and where
it says nothing the setting has a default of its own.  The fields are taken one by one here
(`Field`), each with the table, the key and the position under which a file may say something of it.

* **Settings are read field by field** (`ofDocument?_eq_some_iff`): each is what the document says
  (`said?`), or the default.
* **The rules are checked in one order** (`brokenRule_eq`), and the first that is broken is reported
  (`brokenRule_eq_some_iff`).
* **Only a path that leads nowhere stands for the default** (`loadOrStandard_eq_load`): everything
  else that keeps a file from being read is a failure.

`loads_each_field` puts these together for every tree of files and every path.
-/

namespace ContainerEntry.Settings

open Bytes

/-! ### Fields -/

/-- One of the settings. -/
inductive Field where
  /-- The directory of all users' containers. -/
  | dataDir
  /-- The private directory inside every container. -/
  | privateDir
  /-- The entry helper. -/
  | entryHelper
  /-- The connect helper. -/
  | connectHelper
  /-- The name of the terminal service's socket. -/
  | ptySocket
  /-- The system bus. -/
  | containerBus
  /-- The login shell. -/
  | loginShell
  /-- The program that enters namespaces. -/
  | nsenter
  deriving DecidableEq, Repr

namespace Field

/-- The table in which a file says something of a setting. -/
def table : Field → String
  | .dataDir => "paths"
  | _ => "host"

/-- The key of a setting in its table. -/
def key : Field → String
  | .dataDir => "data_dir"
  | .privateDir => "private_dir"
  | .entryHelper => "entry_helper"
  | .connectHelper => "nsconnect_helper"
  | .ptySocket => "pty_socket"
  | .containerBus => "container_bus"
  | .loginShell => "login_shell"
  | .nsenter => "nsenter"

/-- The place of a setting where its table is written as an array. -/
def position : Field → Nat
  | .dataDir | .privateDir => 0
  | .entryHelper => 1
  | .connectHelper => 2
  | .ptySocket => 3
  | .containerBus => 4
  | .loginShell => 5
  | .nsenter => 6

/-- What is reported of a setting is told by its table and its key. -/
def path (field : Field) : String := field.table ++ "." ++ field.key

/-- The value of a setting. -/
def of (settings : Settings) : Field → Bytes
  | .dataDir => settings.dataDir
  | .privateDir => settings.privateDir
  | .entryHelper => settings.entryHelper
  | .connectHelper => settings.connectHelper
  | .ptySocket => settings.ptySocket
  | .containerBus => settings.containerBus
  | .loginShell => settings.loginShell
  | .nsenter => settings.nsenter

/-- What holds of all settings holds of each. -/
lemma forall_iff {p : Field → Prop} :
    (∀ field, p field) ↔ p .dataDir ∧ p .privateDir ∧ p .entryHelper ∧ p .connectHelper ∧
      p .ptySocket ∧ p .containerBus ∧ p .loginShell ∧ p .nsenter := by
  constructor
  · intro h
    exact ⟨h _, h _, h _, h _, h _, h _, h _, h _⟩
  · rintro ⟨h1, h2, h3, h4, h5, h6, h7, h8⟩ field
    cases field <;> assumption

end Field

/-! ### What a document says -/

/-- Whether an item may stand where a table is wanted. -/
def IsSection : Toml.Item → Prop
  | .table _ _ | .array _ | .date => True
  | _ => False

/-- What a document says of a setting, by its key or by its position. -/
def said? (entries : Toml.Entries) (field : Field) : Option Toml.Item :=
  match entries.lookup (ofString field.table) with
  | some (.table _ below) => below.lookup (ofString field.key)
  | some (.array items) => items[field.position]?
  | _ => none

/-- The settings that a document gives: its tables are ones, and each setting is the text that the
document says, or the standard one where the document says nothing of it. -/
structure Gives (entries : Toml.Entries) (settings : Settings) : Prop where
  /-- What stands for a table is one. -/
  isSection : ∀ field : Field, ∀ item ∈ entries.lookup (ofString field.table), IsSection item
  /-- Every setting is told or standard. -/
  value : ∀ field : Field, said? entries field = some (.text (field.of settings)) ∨
    said? entries field = none ∧ field.of settings = field.of standard

/-- What is given for a setting is what is said of it, in what may stand for a table. -/
lemma given_eq_some_iff {entries : Toml.Entries} {field : Field} {value : Option Bytes} :
    given (entries.lookup (ofString field.table)) field.position field.key = some value ↔
      (∀ item ∈ entries.lookup (ofString field.table), IsSection item) ∧
        said? entries field = value.map .text := by
  have htext : ∀ item : Option Toml.Item, textOf item = some value ↔ item = value.map .text := by
    intro item
    unfold textOf
    split <;> cases value <;> simp_all
  unfold given said?
  cases entries.lookup (ofString field.table) with
  | none => cases value <;> simp
  | some item =>
    cases item with
    | table => simp [IsSection, htext]
    | array => simp [IsSection, htext]
    | date => cases value <;> simp [IsSection]
    | text | scalar | tables => simp [IsSection]

/-- Settings are read field by field, each from what is given for it. -/
lemma ofDocument?_eq_some_iff_given {entries : Toml.Entries} {settings : Settings} :
    ofDocument? entries = some settings ↔ ∀ field : Field, ∃ value,
      given (entries.lookup (ofString field.table)) field.position field.key = some value ∧
        value.getD (field.of standard) = field.of settings := by
  rw [Field.forall_iff]
  simp only [ofDocument?, Option.bind_eq_bind, Option.bind_eq_some_iff, Option.pure_def,
    Option.some.injEq]
  constructor
  · rintro ⟨dataDir, h1, privateDir, h2, entryHelper, h3, connectHelper, h4, ptySocket, h5,
      containerBus, h6, loginShell, h7, nsenter, h8, rfl⟩
    exact ⟨⟨_, h1, rfl⟩, ⟨_, h2, rfl⟩, ⟨_, h3, rfl⟩, ⟨_, h4, rfl⟩, ⟨_, h5, rfl⟩, ⟨_, h6, rfl⟩,
      ⟨_, h7, rfl⟩, ⟨_, h8, rfl⟩⟩
  · rintro ⟨⟨v1, h1, e1⟩, ⟨v2, h2, e2⟩, ⟨v3, h3, e3⟩, ⟨v4, h4, e4⟩, ⟨v5, h5, e5⟩, ⟨v6, h6, e6⟩,
      ⟨v7, h7, e7⟩, ⟨v8, h8, e8⟩⟩
    obtain ⟨⟩ := settings
    cases e1; cases e2; cases e3; cases e4; cases e5; cases e6; cases e7; cases e8
    exact ⟨_, h1, _, h2, _, h3, _, h4, _, h5, _, h6, _, h7, _, h8, rfl⟩

/-- **A document is read as the settings that it gives.** -/
lemma ofDocument?_eq_some_iff {entries : Toml.Entries} {settings : Settings} :
    ofDocument? entries = some settings ↔ Gives entries settings := by
  simp only [ofDocument?_eq_some_iff_given, given_eq_some_iff]
  constructor
  · intro h
    refine ⟨fun field => ?_, fun field => ?_⟩
    · obtain ⟨-, ⟨hsection, -⟩, -⟩ := h field
      exact hsection
    · obtain ⟨value, ⟨-, hsaid⟩, hvalue⟩ := h field
      cases value with
      | none => exact .inr ⟨hsaid, hvalue.symm⟩
      | some text => exact .inl (hvalue ▸ hsaid)
  · intro h field
    rcases h.value field with hsaid | ⟨hsaid, hvalue⟩
    · exact ⟨some (field.of settings), ⟨h.isSection field, hsaid⟩, rfl⟩
    · exact ⟨none, ⟨h.isSection field, hsaid⟩, hvalue.symm⟩

/-- What two documents say alike, their settings have alike. -/
lemma Gives.congr {entries entries' : Toml.Entries} {settings settings' : Settings} {field : Field}
    (h : Gives entries settings) (h' : Gives entries' settings')
    (hsaid : said? entries field = said? entries' field) :
    field.of settings = field.of settings' := by
  rcases h.value field with htold | ⟨hnone, hstandard⟩ <;>
    rcases h'.value field with htold' | ⟨hnone', hstandard'⟩
  · rw [hsaid, htold', Option.some.injEq, Toml.Item.text.injEq] at htold
    exact htold.symm
  · rw [hsaid, hnone'] at htold
    cases htold
  · rw [hsaid, htold'] at hnone
    cases hnone
  · rw [hstandard, hstandard']

/-! ### Rules -/

namespace Field

/-- What a rule asks of a setting: to be an absolute path, or for the socket to be a plain file
name; of the program that is looked up nothing is asked. -/
def Fits : Field → Bytes → Prop
  | .ptySocket, name => name ≠ [] ∧ slash ∉ name
  | .nsenter, _ => True
  | _, path => ∃ rest, path = slash :: rest

/-- What is reported of a setting that does not fit. -/
def cause (field : Field) (value : Bytes) : SettingCause :=
  match field with
  | .ptySocket => .notFileName field.path value
  | _ => .notAbsolute field.path value

/-- The settings that rules are about, in the order in which they are checked. -/
def ruled : List Field :=
  [.dataDir, .privateDir, .entryHelper, .connectHelper, .containerBus, .loginShell, .ptySocket]

/-- The first of the settings that does not fit. -/
def IsFirstUnfit (settings : Settings) (field : Field) : Prop :=
  ∃ front behind, ruled = front ++ field :: behind ∧
    (∀ earlier ∈ front, earlier.Fits (earlier.of settings)) ∧ ¬ field.Fits (field.of settings)

/-- Whether a setting fits. -/
def fits : Field → Bytes → Bool
  | .ptySocket, name => isFileName name
  | .nsenter, _ => true
  | _, path => Path.isAbsolute path

/-- An absolute path starts with a slash. -/
lemma isAbsolute_iff {path : Bytes} : Path.isAbsolute path ↔ ∃ rest, path = slash :: rest := by
  cases path with
  | nil => simp [Path.isAbsolute]
  | cons b rest => simp [Path.isAbsolute_cons]

/-- What is checked of a setting is what is asked of it. -/
lemma fits_iff {field : Field} {value : Bytes} : field.fits value ↔ field.Fits value := by
  cases field with
  | ptySocket => simp [fits, Fits, isFileName]
  | nsenter => simp [fits, Fits]
  | _ => exact isAbsolute_iff

end Field

/-- **The rules are checked in one order**, and the first that is broken is reported. -/
lemma brokenRule_eq (settings : Settings) :
    settings.brokenRule = (Field.ruled.find? fun field => !field.fits (field.of settings)).map
      fun field => field.cause (field.of settings) := by
  -- all but the last of the rules ask for an absolute path
  have hruled : Field.ruled = Field.ruled.dropLast ++ [.ptySocket] := rfl
  have hpaths : settings.absolutePaths =
      Field.ruled.dropLast.map fun field => (field.path, field.of settings) := rfl
  have hcause : ∀ field ∈ Field.ruled.dropLast, ∀ value, field.fits value = Path.isAbsolute value ∧
      field.cause value = .notAbsolute field.path value := by
    intro field hfield value
    fin_cases hfield <;> exact ⟨rfl, rfl⟩
  have hchecks : (Field.ruled.dropLast.find? fun field => !Path.isAbsolute (field.of settings)) =
      Field.ruled.dropLast.find? fun field => !field.fits (field.of settings) := by
    apply List.find?_congr
    intro field hfield
    rw [(hcause field hfield _).1]
  unfold brokenRule
  rw [hruled, List.find?_append, ← hchecks, hpaths, List.find?_map, Function.comp_def]
  cases hfind : Field.ruled.dropLast.find? fun field => !Path.isAbsolute (field.of settings) with
  | some field =>
    have hmem := List.mem_of_find?_eq_some hfind
    simp [(hcause field hmem _).2]
  | none =>
    have hfits : Field.ptySocket.fits (Field.ptySocket.of settings) =
        isFileName settings.ptySocket := rfl
    have hreport : Field.ptySocket.cause (Field.ptySocket.of settings) =
        .notFileName "host.pty_socket" settings.ptySocket := rfl
    cases hname : isFileName settings.ptySocket <;> simp [hfits, hreport, hname]

/-- **What is reported is the first setting that does not fit.** -/
lemma brokenRule_eq_some_iff {settings : Settings} {cause : SettingCause} :
    settings.brokenRule = some cause ↔
      ∃ field, Field.IsFirstUnfit settings field ∧ cause = field.cause (field.of settings) := by
  have hfirst : ∀ field,
      (Field.ruled.find? fun field => !field.fits (field.of settings)) = some field ↔
        Field.IsFirstUnfit settings field := by
    intro field
    simp only [List.find?_eq_some_iff_append, Bool.not_eq_true', Bool.not_not, Field.IsFirstUnfit,
      ← Field.fits_iff, Bool.not_eq_true]
    constructor
    · rintro ⟨hunfit, front, behind, hruled, hfront⟩
      exact ⟨front, behind, hruled, hfront, hunfit⟩
    · rintro ⟨front, behind, hruled, hfront, hunfit⟩
      exact ⟨hunfit, front, behind, hruled, hfront⟩
  rw [brokenRule_eq, Option.map_eq_some_iff]
  simp only [hfirst, eq_comm]

/-- Settings break no rule if and only if each of them fits that a rule is about. -/
lemma brokenRule_eq_none_iff_fits {settings : Settings} :
    settings.brokenRule = none ↔ ∀ field ∈ Field.ruled, field.Fits (field.of settings) := by
  rw [brokenRule_eq, Option.map_eq_none_iff, List.find?_eq_none]
  simp only [Bool.not_eq_true', Bool.not_eq_false, Field.fits_iff]

/-! ### Files -/

variable {files : Filesystem} {path : Bytes} {settings : Settings}

/-- A path that leads nowhere: the system finds no entry there. -/
def IsAbsent (files : Filesystem) (path : Bytes) : Prop :=
  files.inode path = .error (.os .noEntry)

/-- The settings that can be read at a path, whether they break a rule or not: there is a document,
and it gives them. -/
def IsRead (files : Filesystem) (path : Bytes) (settings : Settings) : Prop :=
  ∃ content entries, readText files path = .ok content ∧ Toml.parse? content = some entries ∧
    Gives entries settings

/-- A path leads nowhere if it comes to a name that its directory does not hold, be it the path's
own last name or, behind links, the last name of a link's target. -/
lemma isAbsent_of_vacant {directory : Inode} {name : Bytes} {asDirectory : Bool}
    (hnul : nul ∉ path)
    (h : files.resolve path .followed = .ok (.vacant directory name asDirectory)) :
    IsAbsent files path := by
  have hexisting : files.existing path true = .error .noEntry := by
    rw [Filesystem.existing, if_pos rfl, h]
  have hplain : Filesystem.checked path = .ok path := if_neg (by simpa using hnul)
  unfold IsAbsent Filesystem.inode
  simp only [hplain, hexisting]
  rfl

/-- Settings are read from the document that the file's text is. -/
lemma isRead_iff :
    IsRead files path settings ↔ ∃ content, readText files path = .ok content ∧
      (Toml.parse? content).bind ofDocument? = some settings := by
  simp only [IsRead, ← ofDocument?_eq_some_iff, Option.bind_eq_some_iff, exists_and_left]

/-- Settings that can be read are loaded, unless they break a rule. -/
lemma load_of_isRead (h : IsRead files path settings) :
    load files path =
      match settings.brokenRule with
      | some cause => .error (.settingsInvalid cause)
      | none => .ok settings := by
  obtain ⟨content, hcontent, hsettings⟩ := isRead_iff.1 h
  unfold load
  cases hrule : settings.brokenRule <;> simp only [hcontent, hsettings, hrule]

/-- What is loaded can be read, and so can what is reported to break a rule. -/
lemma exists_isRead_of_load
    (h : (∃ settings, load files path = .ok settings) ∨
      ∃ cause, load files path = .error (.settingsInvalid cause)) :
    ∃ read, IsRead files path read := by
  by_contra hunread
  unfold load at h
  cases hcontent : readText files path with
  | error fault => simp [hcontent] at h
  | ok content =>
    cases hsettings : (Toml.parse? content).bind ofDocument? with
    | none => simp [hcontent, hsettings] at h
    | some read => exact hunread ⟨read, isRead_iff.2 ⟨content, hcontent, hsettings⟩⟩

/-- Settings are loaded if they can be read and break no rule. -/
lemma load_eq_ok_iff :
    load files path = .ok settings ↔ IsRead files path settings ∧ settings.brokenRule = none := by
  constructor
  · intro h
    obtain ⟨read, hread⟩ := exists_isRead_of_load (.inl ⟨settings, h⟩)
    rw [load_of_isRead hread] at h
    split at h
    · cases h
    · next hrule =>
      cases h
      exact ⟨hread, hrule⟩
  · rintro ⟨hread, hrule⟩
    rw [load_of_isRead hread, hrule]

/-- A broken rule is reported if settings can be read that break it. -/
lemma load_eq_invalid_iff {cause : SettingCause} :
    load files path = .error (.settingsInvalid cause) ↔
      ∃ settings, IsRead files path settings ∧ settings.brokenRule = some cause := by
  constructor
  · intro h
    obtain ⟨read, hread⟩ := exists_isRead_of_load (.inr ⟨cause, h⟩)
    rw [load_of_isRead hread] at h
    split at h
    · next hrule =>
      cases h
      exact ⟨read, hread, hrule⟩
    · cases h
  · rintro ⟨settings, hread, hrule⟩
    rw [load_of_isRead hread, hrule]

/-- Where a path leads nowhere, the settings are the standard ones. -/
lemma loadOrStandard_of_isAbsent (h : IsAbsent files path) :
    loadOrStandard files path = .ok standard := by
  rw [loadOrStandard, h]
  rfl

/-- **Everywhere else the file is loaded**, or it cannot be read for the same reason. -/
lemma loadOrStandard_eq_load (h : ¬ IsAbsent files path) :
    loadOrStandard files path = load files path := by
  unfold loadOrStandard
  cases hinode : files.inode path with
  | ok i => rfl
  | error fault =>
    have hfound : fault.isNotFound = false := by
      cases fault with
      | os errno =>
        refine decide_eq_false fun herrno => h ?_
        rw [IsAbsent, hinode, herrno]
      | _ => rfl
    have hunread : readText files path = .error fault := by
      rw [readText, Filesystem.readFile, hinode]
    rw [load, hunread]
    simp [hfound]

/-- **Settings are told by the file field by field, and always checked.**  Settings are loaded, or
stand for a missing file, in two ways only: the path leads nowhere, and they are the standard ones;
or there is a document, and each of them is what the document says of it, or the standard one.  What
two documents say alike of a setting is alike in what they give, whatever else they say.  Either way
every setting fits that a rule is about.  A path that does not lead nowhere is loaded, and a broken
rule is reported exactly if settings can be read, as that of the first setting in order that does
not fit.  A path leads nowhere also where links lead it to a name that is not there. -/
theorem loads_each_field (files : Filesystem) (path : Bytes) :
    (∀ settings, loadOrStandard files path = .ok settings ↔
      (IsAbsent files path ∧ settings = standard) ∨
      (¬ IsAbsent files path ∧ IsRead files path settings ∧
        ∀ field ∈ Field.ruled, field.Fits (field.of settings))) ∧
    (∀ entries entries' settings settings' field, Gives entries settings →
      Gives entries' settings' → said? entries field = said? entries' field →
      field.of settings = field.of settings') ∧
    (∀ settings, loadOrStandard files path = .ok settings →
      ∀ field ∈ Field.ruled, field.Fits (field.of settings)) ∧
    (¬ IsAbsent files path → loadOrStandard files path = load files path) ∧
    (∀ cause, load files path = .error (.settingsInvalid cause) ↔
      ∃ settings field, IsRead files path settings ∧ Field.IsFirstUnfit settings field ∧
        cause = field.cause (field.of settings)) ∧
    ∀ directory name asDirectory, nul ∉ path →
      files.resolve path .followed = .ok (.vacant directory name asDirectory) →
      IsAbsent files path := by
  refine ⟨fun settings => ?_, fun _ _ _ _ _ h h' => h.congr h', fun settings h => ?_,
    loadOrStandard_eq_load, fun cause => ?_, fun _ _ _ => isAbsent_of_vacant⟩
  · by_cases habsent : IsAbsent files path
    · rw [loadOrStandard_of_isAbsent habsent]
      simp [habsent, eq_comm]
    · rw [loadOrStandard_eq_load habsent, load_eq_ok_iff, brokenRule_eq_none_iff_fits]
      simp [habsent]
  · exact brokenRule_eq_none_iff_fits.1 (brokenRule_of_loadOrStandard h)
  · simp only [load_eq_invalid_iff, brokenRule_eq_some_iff]
    constructor
    · rintro ⟨settings, hread, field, hfirst, hcause⟩
      exact ⟨settings, field, hread, hfirst, hcause⟩
    · rintro ⟨settings, field, hread, hfirst, hcause⟩
      exact ⟨settings, hread, field, hfirst, hcause⟩

/-- A root directory with two settings files, a link that leads nowhere, and a link to that one. -/
def settingsTree : Filesystem :=
  ⟨#[.directory 0 [("told.toml", 1), ("unfit.toml", 2), ("gone", 3), ("far", 4)],
    .file "paths = [\"/data\"]\n[host]\nentry_helper = \"/helper\"\ncolour = 1\n" 0o644,
    .file "[host]\npty_socket = \"a/b\"\nlogin_shell = \"sh\"\nnsenter = \"\"\n" 0o644,
    .symlink "nowhere", .symlink "gone"], 0⟩

/-- What a settings file says by position and by key is taken from it and all else is standard, two
links behind one another lead to the standard settings, and of two settings that do not fit the one
that is first in order is reported. -/
theorem loads_each_field_severalFiles :
    loadOrStandard settingsTree "/told.toml" =
      .ok { standard with dataDir := "/data", entryHelper := "/helper" } ∧
    IsRead settingsTree "/told.toml"
      { standard with dataDir := "/data", entryHelper := "/helper" } ∧
    nul ∉ (ofString "/far") ∧
    settingsTree.resolve "/far" .followed = .ok (.vacant 0 "nowhere" false) ∧
    loadOrStandard settingsTree "/far" = .ok standard ∧
    ∃ settings field, IsRead settingsTree "/unfit.toml" settings ∧
      Field.IsFirstUnfit settings field ∧
      field.cause (field.of settings) = .notAbsolute "host.login_shell" "sh" := by
  have htold : loadOrStandard settingsTree "/told.toml" =
      .ok { standard with dataDir := "/data", entryHelper := "/helper" } := by
    rfl
  have hunfit : load settingsTree "/unfit.toml" =
      .error (.settingsInvalid (.notAbsolute "host.login_shell" "sh")) := by
    rfl
  have hnul : nul ∉ (ofString "/far") := by decide
  have hvacant : settingsTree.resolve "/far" .followed = .ok (.vacant 0 "nowhere" false) := by rfl
  refine ⟨htold, ?_, hnul, hvacant, ?_, ?_⟩
  · rcases ((loads_each_field settingsTree "/told.toml").1 _).1 htold with ⟨habsent, -⟩ | ⟨-, h, -⟩
    · cases habsent
    · exact h
  · obtain ⟨hloaded, -, -, -, -, habsent⟩ := loads_each_field settingsTree "/far"
    exact (hloaded standard).2 (.inl ⟨habsent _ _ _ hnul hvacant, rfl⟩)
  · obtain ⟨settings, field, hread, hfirst, hcause⟩ :=
      ((loads_each_field settingsTree "/unfit.toml").2.2.2.2.1 _).1 hunfit
    exact ⟨settings, field, hread, hfirst, hcause.symm⟩

end ContainerEntry.Settings
