import ContainerEntry.Failure
import ContainerEntry.Filesystem.Tree
import ContainerEntry.Toml.Document

/-!
# Settings

Eight places that the host and its containers agree on.  Each has a default of its own, and a
settings file may give any of them in its tables `paths` and `host`; a table may also be written as
an array of its settings in order.  Keys that no one knows are passed over.

Whatever the source, the settings of an entry keep two rules: six of the paths are absolute, and the
terminal service's socket is a plain file name.  `brokenRule` names the first rule that is broken.
-/

namespace ContainerEntry

open Bytes

/-- Where things are. -/
structure Settings where
  /-- The directory of all users' containers. -/
  dataDir : Bytes
  /-- The private directory inside every container. -/
  privateDir : Bytes
  /-- The entry helper inside a container. -/
  entryHelper : Bytes
  /-- The host's helper that connects a socket inside another mount namespace. -/
  connectHelper : Bytes
  /-- The file name of the terminal service's socket in the private directory. -/
  ptySocket : Bytes
  /-- The system bus inside a container. -/
  containerBus : Bytes
  /-- The login shell inside a container. -/
  loginShell : Bytes
  /-- The host's program that enters namespaces. -/
  nsenter : Bytes
  deriving DecidableEq, Repr

namespace Settings

/-- The settings of a host without a settings file. -/
def standard : Settings where
  dataDir := "/var/lib/porthole"
  privateDir := "/run/host/porthole"
  entryHelper := "/run/host/porthole/porthole-host"
  connectHelper := "/usr/libexec/porthole/porthole-nsconnect"
  ptySocket := "pty-service.sock"
  containerBus := "/run/dbus/system_bus_socket"
  loginShell := "/run/host/login-shell"
  nsenter := "nsenter"

/-- The settings file of a host. -/
def standardPath : Bytes := "/etc/porthole/porthole.toml"

/-- The text of an item that has to be one. -/
def textOf : Option Toml.Item → Option (Option Bytes)
  | none => some none
  | some (.text value) => some (some value)
  | some _ => none

/-- What a section says about a setting, by its key or by its position; `none` when the section
or the value is of the wrong kind.  A date stands for a section that says nothing. -/
def given (table : Option Toml.Item) (position : Nat) (key : String) :
    Option (Option Bytes) :=
  match table with
  | none => some none
  | some (.table _ entries) => textOf (entries.lookup (ofString key))
  | some (.array items) => textOf items[position]?
  | some .date => some none
  | some _ => none

/-- The settings of a document. -/
def ofDocument? (entries : Toml.Entries) : Option Settings := do
  let paths := entries.lookup (ofString "paths")
  let host := entries.lookup (ofString "host")
  let dataDir ← given paths 0 "data_dir"
  let privateDir ← given host 0 "private_dir"
  let entryHelper ← given host 1 "entry_helper"
  let connectHelper ← given host 2 "nsconnect_helper"
  let ptySocket ← given host 3 "pty_socket"
  let containerBus ← given host 4 "container_bus"
  let loginShell ← given host 5 "login_shell"
  let nsenter ← given host 6 "nsenter"
  return {
    dataDir := dataDir.getD standard.dataDir
    privateDir := privateDir.getD standard.privateDir
    entryHelper := entryHelper.getD standard.entryHelper
    connectHelper := connectHelper.getD standard.connectHelper
    ptySocket := ptySocket.getD standard.ptySocket
    containerBus := containerBus.getD standard.containerBus
    loginShell := loginShell.getD standard.loginShell
    nsenter := nsenter.getD standard.nsenter }

/-- The settings that must be absolute paths, in the order in which they are checked. -/
def absolutePaths (s : Settings) : List (String × Bytes) := [
  ("paths.data_dir", s.dataDir),
  ("host.private_dir", s.privateDir),
  ("host.entry_helper", s.entryHelper),
  ("host.nsconnect_helper", s.connectHelper),
  ("host.container_bus", s.containerBus),
  ("host.login_shell", s.loginShell)]

/-- Whether a text is a plain file name. -/
def isFileName (name : Bytes) : Bool := !name.isEmpty && !name.contains slash

/-- The first rule that the settings break. -/
def brokenRule (s : Settings) : Option SettingCause :=
  match s.absolutePaths.find? fun p => !Path.isAbsolute p.2 with
  | some (key, value) => some (.notAbsolute key value)
  | none =>
    if isFileName s.ptySocket then none else some (.notFileName "host.pty_socket" s.ptySocket)

/-- A text file's content. -/
def readText (files : Filesystem) (path : Bytes) : Except Fault Bytes :=
  match files.readFile path with
  | .error fault => .error fault
  | .ok content => if Text.isUtf8 content then .ok content else .error .notUtf8

/-- The settings of a file. -/
def load (files : Filesystem) (path : Bytes) : Except Failure Settings :=
  match readText files path with
  | .error fault => .error (.settingsRead path fault)
  | .ok content =>
    match (Toml.parse? content).bind ofDocument? with
    | none => .error .settingsParse
    | some settings =>
      match settings.brokenRule with
      | some cause => .error (.settingsInvalid cause)
      | none => .ok settings

/-- The settings of a file, or the standard ones when there is no such file. -/
def loadOrStandard (files : Filesystem) (path : Bytes) : Except Failure Settings :=
  match files.inode path with
  | .ok _ => load files path
  | .error fault =>
    if fault.isNotFound then .ok standard else .error (.settingsRead path fault)

end Settings

end ContainerEntry
