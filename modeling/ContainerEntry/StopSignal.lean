import ContainerEntry.Signal

/-!
# Stop signals

What a user may ask of a running container.  Powering off and rebooting are requests to an init
system, so they suit booted containers only; termination and killing suit the others only.  The
default is the gentlest request that suits.
-/

namespace ContainerEntry

/-- A request to stop a container. -/
inductive StopSignal where
  /-- The gentlest request that suits the container. -/
  | default
  /-- Power off the container's init system. -/
  | poweroff
  /-- Reboot the container's init system. -/
  | reboot
  /-- Terminate. -/
  | terminate
  /-- Kill. -/
  | kill
  deriving DecidableEq, Repr

namespace StopSignal

/-- Every request, in the order in which the command line lists them. -/
def all : List StopSignal := [.default, .poweroff, .reboot, .terminate, .kill]

/-- The first of the real-time signals that programs may use. -/
def realTimeMin : Nat := 34

/-- The number of the signal that is sent; 0 is none. -/
def number : StopSignal → Nat
  | .default => 0
  | .poweroff => realTimeMin + 4
  | .reboot => Signal.interrupt.number
  | .terminate => Signal.terminate.number
  | .kill => Signal.kill.number

/-- The name under which a request is shown. -/
def name : StopSignal → Bytes
  | .default => "default"
  | .poweroff => "poweroff"
  | .reboot => "reboot"
  | .terminate => "sigterm"
  | .kill => "sigkill"

/-- The spellings that the command line takes for a request. -/
def spellings : StopSignal → List Bytes
  | .default => ["default"]
  | .poweroff => ["poweroff"]
  | .reboot => ["reboot"]
  | .terminate => ["term", "sigterm"]
  | .kill => ["kill", "sigkill"]

/-- The request that a text spells. -/
def ofSpelling? (text : Bytes) (ignoreCase : Bool) : Option StopSignal :=
  all.find? fun s => s.spellings.any fun spelling =>
    if ignoreCase then Bytes.eqIgnoringCase spelling text else spelling == text

/-- Why a request does not suit a container. -/
inductive Misfit where
  /-- A booted container takes requests for its init system only, not for all processes. -/
  | allOfBooted
  /-- The request needs an init system. -/
  | needsBooted
  /-- The request would bypass the init system. -/
  | bypassesInit
  deriving DecidableEq, Repr

/-- The wording of a misfit. -/
def Misfit.reason : Misfit → Bytes
  | .allOfBooted => "--all is not supported for booted containers"
  | .needsBooted => "poweroff and reboot need a booted container"
  | .bypassesInit => "only poweroff and reboot may be sent to a booted container"

/-- The request with the default filled in. -/
def concrete (boot : Bool) : StopSignal → StopSignal
  | .default => if boot then .poweroff else .terminate
  | s => s

/-- The request that is sent to a container, or the one that does not suit it and why. -/
def resolve (s : StopSignal) (boot everyProcess : Bool) :
    Except (StopSignal × Misfit) StopSignal :=
  if boot && everyProcess then .error (s, .allOfBooted)
  else match s.concrete boot, boot with
    | .poweroff, false => .error (.poweroff, .needsBooted)
    | .reboot, false => .error (.reboot, .needsBooted)
    | .terminate, true => .error (.terminate, .bypassesInit)
    | .kill, true => .error (.kill, .bypassesInit)
    | signal, _ => .ok signal

end StopSignal

end ContainerEntry
