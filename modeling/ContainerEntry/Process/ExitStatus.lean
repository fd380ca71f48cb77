import ContainerEntry.Failure

/-!
# Ends of workloads

A workload ends by an exit code or by a signal.  Two sources report its end: the wait status of a
child, and a unit's pair of a code and a status.  A shell shows a death by signal as 128 and the
signal's number.
-/

namespace ContainerEntry

open Text

/-- How a workload ended. -/
inductive ExitStatus where
  /-- It exited with a code. -/
  | exited (code : Int)
  /-- A signal killed it. -/
  | killed (signal : Int)
  deriving DecidableEq, Repr

namespace ExitStatus

/-- The end that a child's wait status reports. -/
def ofWaitStatus (pid : Int) : WaitStatus → Except Failure ExitStatus
  | .exited code => .ok (.exited code)
  | .signaled signal _ => .ok (.killed signal.number)
  | status => .error (.wait (.notEnded pid status))

/-- The code by which a unit reports that its process exited by itself. -/
def exitedCode : Int := 1

/-- The end that a unit reports of its main process. -/
def ofUnit (code status : Int) : ExitStatus :=
  if code = exitedCode then .exited status else .killed status

/-- The code that a shell shows. -/
def code : ExitStatus → Int
  | .exited c => c
  | .killed signal => 128 + signal

/-- An end in words. -/
def describe : ExitStatus → Bytes
  | .exited c => "exited with status " ++ decimalInt c
  | .killed signal => "killed by signal " ++ decimalInt signal

/-- The end of a child whose status word has been collected.  A word that cannot be read counts as
a failed wait. -/
def ofRaw (pid : Int) (raw : UInt32) : Except Failure ExitStatus :=
  match WaitStatus.decode? raw with
  | none => .error (.wait (.waiting pid .invalid))
  | some status => ofWaitStatus pid status

end ExitStatus

end ContainerEntry
