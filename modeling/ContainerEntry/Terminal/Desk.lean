import ContainerEntry.Terminal

/-!
# Terminals in use

Several terminals at once, and the guards of those that are in raw mode.  Entering raw mode saves
the attributes in a guard; restoring sets the saved attributes again, and so does dropping the
guard, which passes over a failure to restore.  Guards can be nested, each saving what the one
before it left, so they have to go in reverse order for the first attributes to come back.

Every operation is a few calls of the system, and each of them can be refused: because the device is
no terminal, or for a reason from outside.  A refused call changes nothing, and what the calls
before it changed stays as it is.

A guard goes by a name as well.  Entering raw mode under a name that already has a guard makes the
new guard first and drops the old one afterwards, which restores what the old one saved.
-/

namespace ContainerEntry

open Bytes

/-- What a descriptor stands for: the terminal of a name, or nothing that is a terminal. -/
abbrev Device := Option Bytes

/-- A terminal in raw mode, and what to restore. -/
structure Guard where
  /-- The terminal's device. -/
  device : Device
  /-- The attributes to restore. -/
  saved : Attributes
  deriving DecidableEq, Repr

/-- Terminals and guards, by name; the guard that was made last comes first. -/
structure Desk where
  /-- The terminals. -/
  terminals : List (Bytes × Terminal)
  /-- The guards. -/
  guards : List (Bytes × Guard)
  deriving DecidableEq, Repr

namespace Desk

/-- The terminal of a device. -/
def terminal? (d : Desk) (device : Device) : Option Terminal :=
  device.bind fun name => d.terminals.lookup name

/-- Something about the terminal of a device. -/
def inspect {α : Type} (d : Desk) (device : Device) (f : Terminal → α) : Except Errno α :=
  match d.terminal? device with
  | none => .error .notTerminal
  | some t => .ok (f t)

/-- The desk with the terminal of a device altered. -/
def alter (d : Desk) (device : Device) (f : Terminal → Terminal) : Desk :=
  { d with terminals := d.terminals.map fun (n, t) => (n, if device = some n then f t else t) }

/-- Alters the terminal of a device. -/
def change (d : Desk) (device : Device) (f : Terminal → Terminal) : Except Errno Desk :=
  match d.terminal? device with
  | none => .error .notTerminal
  | some _ => .ok (d.alter device f)

/-- The window size of a device. -/
def size (d : Desk) (device : Device) : Except Errno WindowSize := d.inspect device (·.size)

/-- Sets the window size of a device. -/
def setSize (d : Desk) (device : Device) (size : WindowSize) : Except Errno Desk :=
  d.change device (·.withSize size)

/-- The attributes of a device. -/
def attributes (d : Desk) (device : Device) : Except Errno Attributes :=
  d.inspect device (·.attributes)

/-- Sets the attributes of a device. -/
def setAttributes (d : Desk) (device : Device) (a : Attributes) : Except Errno Desk :=
  d.change device (·.withAttributes a)

/-- Clears flags of a device. -/
def clear (d : Desk) (device : Device) (flags : List TerminalFlag) : Except Errno Desk :=
  d.change device fun t => t.withAttributes (t.attributes.clear flags)

/-- The desk with one more guard. -/
def keep (d : Desk) (name : Bytes) (g : Guard) : Desk := { d with guards := (name, g) :: d.guards }

/-- The desk without the guard at a place. -/
def discard (d : Desk) (place : Nat) : Desk := { d with guards := d.guards.eraseIdx place }

end Desk

/-- Which calls of an operation are refused from outside. -/
structure TerminalRefusals where
  /-- Duplicating the descriptor. -/
  duplicate : Option Errno := none
  /-- Reading the attributes. -/
  getAttributes : Option Errno := none
  /-- Setting the attributes. -/
  setAttributes : Option Errno := none
  /-- Setting the saved attributes again. -/
  restore : Option Errno := none
  /-- Reading the window size. -/
  getSize : Option Errno := none
  /-- Setting the window size. -/
  setSize : Option Errno := none
  deriving DecidableEq, Repr

/-- Nothing is refused from outside. -/
def TerminalRefusals.granted : TerminalRefusals := {}

/-- Calls of the system, one after the other. -/
abbrev Calls := EStateM Failure Desk

namespace Calls

/-- The desk after some calls, whether one of them failed or not. -/
def after {α : Type} (calls : Calls α) (d : Desk) : Desk :=
  match calls d with
  | .ok _ d' => d'
  | .error _ d' => d'

/-- A call that reads. -/
def ask {α : Type} (question : Desk → Except Errno α) (refused : Option Errno)
    (failure : Errno → Failure) : Calls α := fun d =>
  match question d, refused with
  | .error e, _ => .error (failure e) d
  | .ok _, some e => .error (failure e) d
  | .ok a, none => .ok a d

/-- A call that changes something. -/
def tell (order : Desk → Except Errno Desk) (refused : Option Errno) (failure : Errno → Failure) :
    Calls Unit := fun d =>
  match order d, refused with
  | .error e, _ => .error (failure e) d
  | .ok _, some e => .error (failure e) d
  | .ok d', none => .ok () d'

/-- Enters raw mode on a device; the guard gets a name. -/
def enterRaw (r : TerminalRefusals) (device : Device) (name : Bytes) : Calls Unit := do
  ask (fun _ => .ok ()) r.duplicate fun e => .io (.os e)
  let saved ← ask (·.attributes device) r.getAttributes fun e => .terminal (.getAttributes e)
  tell (·.setAttributes device saved.raw) r.setAttributes fun e => .terminal (.setAttributes e)
  modify (·.keep name ⟨device, saved⟩)

/-- Sets the attributes again that a guard saved. -/
def restore (r : TerminalRefusals) (g : Guard) : Calls Unit :=
  tell (·.setAttributes g.device g.saved) r.restore fun e => .terminal (.restore e)

/-- Gives a device the window size of another. -/
def copySize (r : TerminalRefusals) (source target : Device) : Calls Unit := do
  let size ← ask (·.size source) r.getSize fun e => .terminal (.getSize (.os e))
  tell (·.setSize target size) r.setSize fun e => .terminal (.setSize (.os e))

end Calls

/-- What is done with terminals; a guard is told by its place among those there are. -/
inductive Act where
  /-- Entering raw mode on a device, with a name for the guard. -/
  | enterRaw (device : Device) (name : Bytes)
  /-- Restoring what the guard at a place saved. -/
  | restore (place : Nat)
  /-- Dropping the guard at a place. -/
  | drop (place : Nat)
  /-- Giving the second device the window size of the first. -/
  | copySize (source target : Device)
  deriving DecidableEq, Repr

/-- The calls of an act.  Dropping a guard goes on after a failure to restore. -/
def Act.attempt (r : TerminalRefusals) : Act → Calls Unit
  | .enterRaw device name => Calls.enterRaw r device name
  | .restore place => do
    if let some (_, g) := (← get).guards[place]? then
      Calls.restore r g
  | .drop place => do
    if let some (_, g) := (← get).guards[place]? then
      tryCatch (Calls.restore r g) fun _ => pure ()
      modify (·.discard place)
  | .copySize source target => Calls.copySize r source target

/-- An act, and which of its calls are refused. -/
structure Turn where
  /-- What is done. -/
  act : Act
  /-- What is refused. -/
  refusals : TerminalRefusals := .granted
  deriving DecidableEq, Repr

namespace Desk

/-- The desk after a turn, whether it succeeded or not. -/
def step (d : Desk) (t : Turn) : Desk := Calls.after (t.act.attempt t.refusals) d

/-- The desk after some turns. -/
def run (d : Desk) (turns : List Turn) : Desk := turns.foldl step d

/-- The desk after an act with nothing refused from outside, or why the act failed. -/
def perform (d : Desk) (act : Act) : Except Failure Desk :=
  match act.attempt .granted d with
  | .ok _ d' => .ok d'
  | .error f _ => .error f

/-- The place of the guard of a name. -/
def place? (d : Desk) (name : Bytes) : Option Nat := d.guards.findIdx? (·.1 == name)

/-- Gives a device the window size of another. -/
def copySize (d : Desk) (source target : Device) : Except Failure Desk :=
  d.perform (.copySize source target)

/-- Puts a device into raw mode under a name; an old guard of that name goes afterwards. -/
def enterRaw (d : Desk) (device : Device) (name : Bytes) : Except Failure Desk :=
  (d.perform (.enterRaw device name)).map fun raw =>
    match d.place? name with
    | some place => raw.step { act := .drop (place + 1) }
    | none => raw

/-- Restores what the guard of a name saved, and keeps the guard; `none` without such a guard. -/
def restore? (d : Desk) (name : Bytes) : Option (Except Failure Desk) :=
  (d.place? name).map fun place => d.perform (.restore place)

/-- Drops the guard of a name; `none` without such a guard. -/
def drop? (d : Desk) (name : Bytes) : Option Desk :=
  (d.place? name).map fun place => d.step { act := .drop place }

end Desk

end ContainerEntry
