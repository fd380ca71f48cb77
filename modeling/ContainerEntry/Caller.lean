import ContainerEntry.Account
import ContainerEntry.Environ
import ContainerEntry.Failure

/-!
# The caller

Who asked for an entry, and what of their environment goes along.  Beneath a privilege wrapper the
caller is the user whom the wrapper names; a wrapper's variable that holds no user id is an error
and never makes the caller root.  Of the environment only the variables of a fixed list go along,
and the last of equal names counts.
-/

namespace ContainerEntry

open Bytes Text

/-- The user whose session is represented. -/
structure Caller where
  /-- The caller's user id. -/
  uid : UInt32
  /-- The caller's name. -/
  name : Bytes
  /-- The variables that go along. -/
  environ : Environ
  deriving DecidableEq

namespace Caller

/-- The variables that go along into a container. -/
def forwarded : List Bytes := [
  "COLORTERM",
  "DBUS_SESSION_BUS_ADDRESS",
  "DBUS_SYSTEM_BUS_ADDRESS",
  "DESKTOP_SESSION",
  "DISPLAY",
  "LANG",
  "SHELL",
  "SSH_AUTH_SOCK",
  "TERM",
  "VTE_VERSION",
  "WAYLAND_DISPLAY",
  "XDG_CURRENT_DESKTOP",
  "XDG_DATA_DIRS",
  "XDG_MENU_PREFIX",
  "XDG_RUNTIME_DIR",
  "XDG_SEAT",
  "XDG_SESSION_DESKTOP",
  "XDG_SESSION_ID",
  "XDG_SESSION_TYPE",
  "XDG_VTNR"]

/-- The variables by which privilege wrappers name the caller, in the order in which they are
asked. -/
def wrapperVariables : List Bytes := ["PKEXEC_UID", "SUDO_UID"]

/-- The variables that go along. -/
def select (vars : List (Bytes × Bytes)) : Environ :=
  Environ.ofList (vars.filter fun v => forwarded.contains v.1)

/-- The user id that the first non-empty of the wrapper variables names; root without one. -/
def uidFrom (lookup : Bytes → Option Bytes) : List Bytes → Except Failure UInt32
  | [] => .ok 0
  | var :: rest =>
    match lookup var with
    | none | some [] => uidFrom lookup rest
    | some value =>
      match Account.readUid? value with
      | none => .error (.user (.notUid var value))
      | some uid => .ok uid

/-- The user id of whoever called a privilege wrapper, or root's. -/
def resolveUid (lookup : Bytes → Option Bytes) : Except Failure UInt32 :=
  uidFrom lookup wrapperVariables

/-- Why there is no caller. -/
inductive Refusal where
  /-- The caller could not be resolved. -/
  | failed (failure : Failure)
  /-- A variable of the process is no text, and the program gives up. -/
  | undecodable (name value : Bytes)
  deriving DecidableEq, Repr

/-- A variable of the process as a text. -/
def textVariable (vars : List (Bytes × Bytes)) (name : Bytes) : Option Bytes :=
  (vars.lookup name).bind fun value => if isUtf8 value then some value else none

/-- The caller of a process that runs as root in an environment.  Every variable of the process is
read as text, so a single one that is none leaves no caller. -/
def current (accounts : List Account) (vars : List (Bytes × Bytes)) : Except Refusal Caller :=
  match resolveUid (textVariable vars) with
  | .error failure => .error (.failed failure)
  | .ok uid =>
    match Account.find? accounts uid with
    | none => .error (.failed (.user (.unknown uid.toNat)))
    | some account =>
      match vars.find? fun v => !(isUtf8 v.1 && isUtf8 v.2) with
      | some (name, value) => .error (.undecodable name value)
      | none => .ok ⟨uid, account.name, select vars⟩

end Caller

end ContainerEntry
