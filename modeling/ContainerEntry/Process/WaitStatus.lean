import ContainerEntry.Signal

/-!
# Wait statuses

The system reports a change of a child's state in one 32-bit word.  Its lowest seven bits tell a
normal exit (0) from a death by signal (the signal's number, with bit 7 for a core dump); a low byte
of 7F marks a stop, whose cause is the second byte and, for a traced child, the upper half; the word
FFFF marks a continuation.  The word is read by division, so that each field is a number.
-/

namespace ContainerEntry

open Text

/-- A change of a child's state. -/
inductive WaitStatus where
  /-- The child exited with a code. -/
  | exited (code : Nat)
  /-- A signal killed the child. -/
  | signaled (signal : Signal) (core : Bool)
  /-- A signal stopped the child. -/
  | stopped (signal : Signal)
  /-- A tracing event stopped the child. -/
  | traceEvent (signal : Signal) (event : Int)
  /-- The child entered or left a system call under tracing. -/
  | traceCall
  /-- The child runs on. -/
  | continued
  deriving DecidableEq, Repr

namespace WaitStatus

/-- The upper half of a status word as a signed number. -/
def upperHalf (raw : UInt32) : Int :=
  let half : Nat := raw.toNat / 65536
  if half < 32768 then half else (half : Int) - 65536

/-- The state change that a status word reports; `none` when it holds a number that is no signal.
A word of none of the four forms, such as 00FF, is no status and is never reported.  A decoder may
assert that there is none; here such a word is read as a continuation. -/
def decode? (raw : UInt32) : Option WaitStatus :=
  let low := raw.toNat % 128
  let second := raw.toNat / 256 % 256
  if low = 0 then some (.exited second)
  else if low < 127 then
    (Signal.ofNumber? low).map (.signaled · (decide (raw.toNat / 128 % 2 = 1)))
  else if raw.toNat % 256 = 127 then
    if second = 0x85 then some .traceCall
    else (Signal.ofNumber? second).map fun signal =>
      if upperHalf raw = 0 then .stopped signal else .traceEvent signal (upperHalf raw)
  else some .continued

/-- The word by which the system reports a death by the signal of a number. -/
def killWord (signal : Nat) (core : Bool) : UInt32 :=
  UInt32.ofNat (signal + if core then 128 else 0)

/-- The status of a process in words. -/
def describe (pid : Int) : WaitStatus → Bytes
  | .exited code => "Exited(Pid(" ++ decimalInt pid ++ "), " ++ decimal code ++ ")"
  | .signaled signal core =>
    "Signaled(Pid(" ++ decimalInt pid ++ "), " ++ signal.name ++ ", " ++
      (if core then "true" else "false" : String) ++ ")"
  | .stopped signal => "Stopped(Pid(" ++ decimalInt pid ++ "), " ++ signal.name ++ ")"
  | .traceEvent signal event =>
    "PtraceEvent(Pid(" ++ decimalInt pid ++ "), " ++ signal.name ++ ", " ++
      decimalInt event ++ ")"
  | .traceCall => "PtraceSyscall(Pid(" ++ decimalInt pid ++ "))"
  | .continued => "Continued(Pid(" ++ decimalInt pid ++ "))"

end WaitStatus

end ContainerEntry
