import ContainerEntry.Container.Config
import ContainerEntry.Environ
import ContainerEntry.Settings

/-!
# Containers

A container is a directory below its user's directory, with a configuration file and a `storage`
tree that backs the container's private directories.  Its name is a plain component: letters,
digits, hyphens and underscores, and at least one of them.

`storageChild` leads to a path inside the storage tree.  It keeps the normal components of what it
is given and nothing else, so it never leaves the tree.
-/

namespace ContainerEntry

open Bytes

/-- A container on disk. -/
structure Container where
  /-- The container's name. -/
  name : Bytes
  /-- The container's directory. -/
  path : Bytes
  /-- The container's configuration. -/
  config : Container.Config
  deriving DecidableEq, Repr

namespace Container

/-- A byte of a container's name. -/
def isNameByte (b : UInt8) : Bool := isAlnum b || b = underscore || b = hyphen

/-- Whether a text is a container's name. -/
def isName (text : Bytes) : Bool := !text.isEmpty && text.all isNameByte

/-- The file name of a container's configuration. -/
def configName : Bytes := "config.json"

/-- The container of a directory. -/
def openPath (files : Filesystem) (path name : Bytes) : Except Failure Container :=
  let configPath := Path.join path configName
  match Settings.readText files configPath with
  | .error fault =>
    if fault.isNotFound then .error (.containerNotFound name)
    else .error (.settingsRead configPath fault)
  | .ok content =>
    match Config.parse? content with
    | none => .error (.containerConfig configPath)
    | some config => .ok ⟨name, path, config⟩

/-- The directory of a user's container. -/
def directory (dataDir user name : Bytes) : Bytes := Path.join (Path.join dataDir user) name

/-- A user's container of a name. -/
def openNamed (files : Filesystem) (dataDir user name : Bytes) : Except Failure Container :=
  if isName name then openPath files (directory dataDir user name) name
  else .error (.invalidName name)

/-- The root of a container's storage tree. -/
def storage (c : Container) : Bytes := Path.join c.path "storage"

/-- The path inside the storage tree that leads through the normal components of the parts. -/
def storageChild (c : Container) (parts : List Bytes) : Bytes := Path.descend c.storage parts

/-- The name under which a user's container is registered as a machine. -/
def machineName (c : Container) (user : Bytes) : Bytes :=
  "porthole-" ++ user ++ hyphen :: c.name

/-- The variable that holds the host's virtual terminal. -/
def seatVariable : Bytes := "XDG_VTNR"

/-- The variables that make sense inside a container: a booted one assigns seats itself. -/
def suit (c : Container) (environ : Environ) : Environ :=
  if c.config.boot then environ.erase seatVariable else environ

/-- The socket of the terminal service inside a container's storage tree. -/
def ptySocket (c : Container) (settings : Settings) : Bytes :=
  c.storageChild [settings.privateDir, settings.ptySocket]

end Container

end ContainerEntry
