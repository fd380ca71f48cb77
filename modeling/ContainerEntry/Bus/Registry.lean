import ContainerEntry.Failure
import ContainerEntry.Inventory

/-!
# The registry of machines

A running container is registered under its machine name on the host's system bus.  The registry is
asked for a machine's leading process and asked to signal a machine; every request that reaches the
bus is a call, and the answers here come with the calls that were made for them.

A machine that is not registered has no leader, which is no failure of the lookup itself.  A leader
is registered as an unsigned number and taken as a signed one.  No text on the bus holds a NUL, so a
request about a name that does fails before it is made.
-/

namespace ContainerEntry

open Bytes

/-- Which processes of a machine a signal is for. -/
inductive KillScope where
  /-- The leading process. -/
  | leader
  /-- Every process. -/
  | everyProcess
  deriving DecidableEq, Repr

/-- The name of a scope on the bus. -/
def KillScope.name : KillScope → Bytes
  | .leader => "leader"
  | .everyProcess => "all"

/-- A request that reached a bus. -/
inductive BusCall where
  /-- A machine was looked up. -/
  | getMachine (machine : Bytes)
  /-- A machine was signalled. -/
  | killMachine (machine : Bytes) (scope : KillScope) (signal : Nat)
  /-- A unit's property was read. -/
  | getProperty (publisher property unit : Bytes)
  deriving DecidableEq, Repr

/-- What the registry knows of a machine. -/
inductive Registration where
  /-- It runs with this leader. -/
  | leader (pid : UInt32)
  /-- It is registered, and its leader cannot be read. -/
  | leaderless
  /-- Looking it up is refused by an error of this name. -/
  | refused (error : Bytes)
  deriving DecidableEq, Repr

/-- The host's system bus. -/
structure Registry where
  /-- Whether the bus cannot be reached. -/
  isDown : Bool
  /-- What is known of machines, by name; the others are not registered. -/
  machines : List (Bytes × Registration)
  /-- Whether signalling a machine is answered by an error. -/
  refusesKill : Bool
  deriving DecidableEq, Repr

namespace Registry

/-- The name of the error by which a machine is said not to be registered. -/
def unknownMachine : Bytes := "org.freedesktop.machine1.NoSuchMachine"

/-- An unsigned process number as a signed one. -/
def signedPid (pid : UInt32) : Int :=
  if pid.toNat < 2147483648 then pid.toNat else (pid.toNat : Int) - 4294967296

/-- The leader of a machine, or `none` for one that is not registered. -/
def find (r : Registry) (machine : Bytes) : Except Failure (Option Int) × List BusCall :=
  if r.isDown then (.error (.bus .connect), [])
  else if machine.contains nul then (.error (.bus (.getMachine machine)), [])
  else
    let found : Except Failure (Option Int) :=
      match r.machines.lookup machine with
      | none => .ok none
      | some (.leader pid) => .ok (some (signedPid pid))
      | some .leaderless => .error (.bus (.leaderOf machine))
      | some (.refused error) =>
        if error = unknownMachine then .ok none else .error (.bus (.getMachine machine))
    (found, [.getMachine machine])

/-- The leader of a machine that has to be registered. -/
def leader (r : Registry) (machine : Bytes) : Except Failure Int × List BusCall :=
  let (found, calls) := r.find machine
  match found with
  | .error failure => (.error failure, calls)
  | .ok none => (.error (.machineNotRunning machine), calls)
  | .ok (some pid) => (.ok pid, calls)

/-- Signals a machine. -/
def kill (r : Registry) (machine : Bytes) (scope : KillScope) (signal : Nat) :
    Except Failure Unit × List BusCall :=
  if r.isDown then (.error (.bus .connect), [])
  else if machine.contains nul then (.error (.bus (.killMachine machine)), [])
  else
    (if r.refusesKill then .error (.bus (.killMachine machine)) else .ok (),
      [.killMachine machine scope signal])

end Registry

/-- What a user is told about a container: a lookup that fails counts as one that found nothing. -/
def Inventory.Info.gather (registry : Registry) (container : Container) (user : Bytes) :
    Inventory.Info × List BusCall :=
  let (found, calls) := registry.find (container.machineName user)
  (⟨container.name, container.config.boot, found.toOption.join⟩, calls)

end ContainerEntry
