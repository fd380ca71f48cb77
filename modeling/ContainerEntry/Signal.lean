import ContainerEntry.Text.Decimal

/-!
# Signals

A signal of the classic range has a number from 1 to 31 and a name.  Numbers outside the range are
no `Signal`: a wait status that holds one cannot be read as a signal death or a stop.
-/

namespace ContainerEntry

/-- A signal of the classic range. -/
structure Signal where
  /-- The signal's number. -/
  number : Nat
  /-- The number lies in the classic range. -/
  inRange : 1 ≤ number ∧ number ≤ 31
  deriving DecidableEq, Repr

namespace Signal

/-- The signal with a number of the classic range. -/
def ofNumber? (n : Nat) : Option Signal :=
  if h : 1 ≤ n ∧ n ≤ 31 then some ⟨n, h⟩ else none

/-- The names of the signals 1 to 31, in order. -/
def names : List String := [
  "SIGHUP", "SIGINT", "SIGQUIT", "SIGILL", "SIGTRAP", "SIGABRT", "SIGBUS", "SIGFPE",
  "SIGKILL", "SIGUSR1", "SIGSEGV", "SIGUSR2", "SIGPIPE", "SIGALRM", "SIGTERM", "SIGSTKFLT",
  "SIGCHLD", "SIGCONT", "SIGSTOP", "SIGTSTP", "SIGTTIN", "SIGTTOU", "SIGURG", "SIGXCPU",
  "SIGXFSZ", "SIGVTALRM", "SIGPROF", "SIGWINCH", "SIGIO", "SIGPWR", "SIGSYS"]

/-- Every number of the range has a name. -/
theorem number_pred_lt (s : Signal) : s.number - 1 < names.length := by
  have h : names.length = 31 := rfl
  have := s.inRange
  omega

/-- The name of a signal. -/
def name (s : Signal) : Bytes := names.get ⟨s.number - 1, s.number_pred_lt⟩

/-- The signal with a name. -/
def ofName? (name : Bytes) : Option Signal :=
  (names.findIdx? fun n => Bytes.ofString n == name).bind fun i => ofNumber? (i + 1)

/-- The terminal hung up. -/
abbrev hangUp : Signal := ⟨1, by decide⟩
/-- Interrupt, which a booted container takes as a request to reboot. -/
abbrev interrupt : Signal := ⟨2, by decide⟩
/-- Quit. -/
abbrev quit : Signal := ⟨3, by decide⟩
/-- Kill, which cannot be caught. -/
abbrev kill : Signal := ⟨9, by decide⟩
/-- Termination. -/
abbrev terminate : Signal := ⟨15, by decide⟩
/-- A stop that was typed at the terminal. -/
abbrev terminalStop : Signal := ⟨20, by decide⟩

end Signal

end ContainerEntry
