import Mathlib
import ContainerEntry.Proofs.Entry.Launch
import ContainerEntry.Proofs.World.TypedCommand

/-!
# The directory that the helper tries

The directory of an entry is a path on both ends: the bytes of an option of the host's command line,
or of the host's working directory, and the bytes of an option of the helper's.  In between it is
put into words as it is displayed.

* **The helper tries what is displayed** (`cwd_of_launch`), and goes home if that fails.
* **Displaying decides what the words tell apart** (`helperArgv_eq_iff`): two entries that differ in
  the directory only have the same words if and only if their directories are displayed alike.

A path that is a text is displayed as it is, and no other is (`display_eq_self_iff`), so
`directory_survives_iff` says that the texts are exactly the directories that survive.
-/

namespace ContainerEntry

open Bytes Text Entry CommandLine

namespace Entry

/-- **Directories are told apart by how they are displayed**, and by nothing else in the words for
the helper. -/
lemma Spec.helperArgv_eq_iff {s : Spec} {directory helper loginShell : Bytes} :
    { s with cwd := directory }.helperArgv helper loginShell = s.helperArgv helper loginShell ↔
      display directory = display s.cwd := by
  simp [helperArgv, ptyOptions, effectiveCommand]

/-- A workload starts in the directory of the request, or else at home, or else where the helper
was. -/
lemma cwd_of_launch {sys : System} {inherited : List (Bytes × Bytes)} {r : Request} {p : Process}
    {attempt : Attempt} (h : (launch sys inherited r p).attempt = .ok attempt) :
    ∃ account, sys.account r.uid = .ok (some account) ∧
      (launch sys inherited r p).process.cwd =
        Process.endsIn sys r.cwd account.home p.cwd := by
  obtain ⟨account, haccount, -, hcwd⟩ := ((launch_settles sys inherited r p).isReady h).isUser
  exact ⟨account, haccount, hcwd⟩

end Entry

namespace World

variable {w : World} {line : List Bytes} {settings : Settings} {caller : Caller}
  {container : Container} {spec : Spec}

/-- What gets as far as a door has the directory that was asked for, or else the one in which the
host's program was started. -/
lemma Reaches.cwd_eq (h : w.Reaches line settings caller container spec) :
    ∃ i name workdir noReplay words, Invocation.parse line = .ok i ∧
      i.command = .enter name workdir noReplay words ∧
      spec.cwd = workdir.getD w.startDirectory := by
  cases h with
  | @intro i name workdir noReplay words master hparse hcommand =>
    refine ⟨i, name, workdir, noReplay, words, hparse, hcommand, ?_⟩
    cases master <;> rfl

/-- **A directory survives if and only if it is a text.**  Whatever command line gets as far as a
door,

* the entry has the directory that was asked for, or else the one in which the program was started;
* the helper reads the directory as it is displayed, which is the directory itself if and only if it
  is a text, and what the helper reads is what it tries first for a workload, before it goes home;
  and
* two entries that differ in the directory only have different words for the helper, if and only if
  the directories are displayed differently; so texts are told apart. -/
theorem directory_survives_iff (w : World) (line : List Bytes) (settings : Settings)
    (caller : Caller) (container : Container) (spec : Spec)
    (h : w.Reaches line settings caller container spec) :
    (∃ i name workdir noReplay words, Invocation.parse line = .ok i ∧
      i.command = .enter name workdir noReplay words ∧
      spec.cwd = workdir.getD w.startDirectory) ∧
    (∃ i, HelperInvocation.parse
          (spec.helperArgv settings.entryHelper settings.loginShell).tail = .ok i ∧
      i.cwd = display spec.cwd ∧ (i.cwd = spec.cwd ↔ isUtf8 spec.cwd) ∧
      ∀ sys inherited environ command p attempt,
        (launch sys inherited (requestOf i environ command) p).attempt = .ok attempt →
        ∃ account, sys.account spec.uid = .ok (some account) ∧
          (launch sys inherited (requestOf i environ command) p).process.cwd =
            Process.endsIn sys (display spec.cwd) account.home p.cwd) ∧
    ∀ (s : Spec) (directory helper loginShell : Bytes),
      ({ s with cwd := directory }.helperArgv helper loginShell = s.helperArgv helper loginShell ↔
        display directory = display s.cwd) ∧
      (isUtf8 directory → isUtf8 s.cwd → directory ≠ s.cwd →
        { s with cwd := directory }.helperArgv helper loginShell ≠
          s.helperArgv helper loginShell) := by
  obtain ⟨hs, -⟩ := h.isSendable
  refine ⟨h.cwd_eq, ⟨_, Spec.parse_helperArgv hs _ _, rfl, display_eq_self_iff, ?_⟩, ?_⟩
  · intro sys inherited environ command p attempt hattempt
    exact cwd_of_launch hattempt
  · refine fun s directory helper loginShell => ⟨Spec.helperArgv_eq_iff, ?_⟩
    intro hdirectory hcwd hne hsame
    rw [Spec.helperArgv_eq_iff, display_eq_self hdirectory, display_eq_self hcwd] at hsame
    exact hne hsame

/-- The entry of the small host into a directory. -/
def smallEntryIn (directory : Bytes) : Spec :=
  smallHost.plainSpec ⟨Settings.standardPath, false, .enter "dev" (some directory) false []⟩
    smallCaller smallContainer (some directory) false []

/-- The command line that asks for the directory. -/
def directoryLine (directory : Bytes) : List Bytes :=
  [ofString "enter", written "workdir" (some directory), ofString "dev"]

/-- Everything in front of the door is there. -/
lemma reaches_smallEntryIn (directory : Bytes)
    (hparse : Invocation.parse (directoryLine directory) =
      .ok ⟨Settings.standardPath, false, .enter "dev" (some directory) false []⟩) :
    smallHost.Reaches (directoryLine directory) .standard smallCaller smallContainer
      (smallEntryIn directory) := by
  have hterminal : smallHost.containerTerminal .standard smallContainer = .ok none := by rfl
  exact .intro hparse rfl rfl rfl rfl hterminal

/-- A directory with a letter that is none of ASCII survives. -/
theorem text_directory_survives :
    smallHost.Reaches (directoryLine "/srv/é") .standard smallCaller smallContainer
      (smallEntryIn "/srv/é") ∧
    ∃ i, HelperInvocation.parse ((smallEntryIn "/srv/é").helperArgv
        Settings.standard.entryHelper Settings.standard.loginShell).tail = .ok i ∧
      i.cwd = "/srv/é" := by
  have hreaches := reaches_smallEntryIn "/srv/é" rfl
  obtain ⟨-, ⟨i, hparse, -, hsame, -⟩, -⟩ :=
    directory_survives_iff smallHost _ _ _ _ _ hreaches
  exact ⟨hreaches, i, hparse, hsame.2 (by decide)⟩

/-- A directory with a byte that begins no letter is lost: the helper reads another one, and the
words for the helper are those for a third one. -/
theorem broken_directory_is_lost :
    smallHost.Reaches (directoryLine [0x2f, 0xff]) .standard smallCaller smallContainer
      (smallEntryIn [0x2f, 0xff]) ∧
    (smallEntryIn [0x2f, 0xff]).cwd = [0x2f, 0xff] ∧
    (∃ i, HelperInvocation.parse ((smallEntryIn [0x2f, 0xff]).helperArgv
        Settings.standard.entryHelper Settings.standard.loginShell).tail = .ok i ∧
      i.cwd = [0x2f, 0xef, 0xbf, 0xbd]) ∧
    ({ smallEntryIn [0x2f, 0xff] with cwd := [0x2f, 0xfe] }).helperArgv
        Settings.standard.entryHelper Settings.standard.loginShell =
      (smallEntryIn [0x2f, 0xff]).helperArgv
        Settings.standard.entryHelper Settings.standard.loginShell := by
  have hreaches := reaches_smallEntryIn [0x2f, 0xff] rfl
  obtain ⟨hs, -⟩ := hreaches.isSendable
  refine ⟨hreaches, rfl, ⟨_, Spec.parse_helperArgv hs _ _, by decide⟩, ?_⟩
  exact Spec.helperArgv_eq_iff.2 (by decide)

end World

end ContainerEntry
