import ContainerEntry.Bus.Registry
import ContainerEntry.Lock.Acquire

/-!
# Stopping a container

A stop request is first made to suit the container, then sent to its machine, and then waited for:
the container's supervisor holds the run lock for the container's lifetime, so whoever gets that
lock knows that the supervisor is gone.  The lock is kept until the end of the process, and nothing
of it is touched before the request was sent.

The supervisor is whoever holds the run lock when the stop begins.  It lets the lock go when the
request arrives, whatever the answer is.
-/

namespace ContainerEntry

/-- How a stop ended. -/
inductive StopOutcome where
  /-- The container has stopped, and these inodes stay locked. -/
  | stopped (held : List Inode)
  /-- The stop was given up. -/
  | failed (failure : Failure)
  /-- Somebody else holds the run lock, and the stop waits for it. -/
  | waiting
  deriving DecidableEq, Repr

/-- What a stop came to. -/
structure StopResult where
  /-- How it ended. -/
  outcome : StopOutcome
  /-- The requests that reached the bus. -/
  calls : List BusCall
  /-- The files and the locks afterwards. -/
  space : Lock.Space
  deriving Repr

/-- The processes that a stop signals. -/
def stopScope (everyProcess : Bool) : KillScope := if everyProcess then .everyProcess else .leader

/-- Whether a call sends a signal. -/
def BusCall.isKill : BusCall → Bool
  | .killMachine _ _ _ => true
  | _ => false

/-- Stops a user's container whose supervisor holds some inodes. -/
def stop (registry : Registry) (space : Lock.Space) (supervisor : List Inode)
    (container : Container) (user : Bytes) (signal : StopSignal) (everyProcess : Bool) :
    StopResult :=
  match signal.resolve container.config.boot everyProcess with
  | .error (signal, cause) =>
    ⟨.failed (.unsupportedSignal signal container.name cause), [], space⟩
  | .ok signal =>
    let (reply, calls) :=
      registry.kill (container.machineName user) (stopScope everyProcess) signal.number
    let space := if calls.any BusCall.isKill then space.free supervisor else space
    match reply with
    | .error failure => ⟨.failed failure, calls, space⟩
    | .ok () =>
      match Lock.acquire space container.path .run true with
      | (.acquired held, space) => ⟨.stopped held, calls, space⟩
      | (.failed failure, space) => ⟨.failed failure, calls, space⟩
      | (.waiting _ _ _, space) => ⟨.waiting, calls, space⟩

end ContainerEntry
