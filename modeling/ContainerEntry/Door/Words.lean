import ContainerEntry.Text.Decimal
import ContainerEntry.Text.Utf8

/-!
# The words that open a door

A container without an init system is entered through all namespaces of its leading process, and a
booted one through a transient unit of its init system.  Either way a program of the host is run with
options of its own and then, unchanged, the words for the entry helper.

A unit is named for a random identifier, so that no two entries share one, and is published on the
bus under a path whose last part is the escaped name.
-/

namespace ContainerEntry.Door

open Bytes Text

/-- The variable that marks processes started by an entry. -/
def internalVariable : Bytes := "PORTHOLE_INTERNAL"

/-- The words that run the helper in all namespaces of a process. -/
def nsenterArgv (nsenter : Bytes) (leader : Int) (helperArgv : List Bytes) : List Bytes :=
  [display nsenter, ofString "-a", "-t", decimalInt leader] ++ helperArgv

/-- The words that run the helper as a transient unit of a machine. -/
def systemdRunArgv (machine unit : Bytes) (label : Option Bytes) (helperArgv : List Bytes) :
    List Bytes :=
  [ofString "systemd-run", "--quiet", "--pipe", "--machine=" ++ machine, "--unit=" ++ unit] ++
  (match label with
    | some label => ["--property=SELinuxContext=" ++ label]
    | none => []) ++
  ["--setenv=" ++ internalVariable ++ "=1", ofString "--"] ++ helperArgv

/-- The words that signal a unit of a machine. -/
def systemctlKillArgv (machine unit : Bytes) (signal : Int) : List Bytes :=
  ["systemctl", "--machine=" ++ machine, "kill", "--signal=" ++ decimalInt signal, unit]

/-- An identifier of sixteen bytes. -/
structure UnitId where
  /-- The bytes. -/
  bytes : Bytes
  /-- There are sixteen. -/
  length_eq : bytes.length = 16
  deriving DecidableEq, Repr

/-- The identifier in groups of hexadecimal digits. -/
def UnitId.text (id : UnitId) : Bytes :=
  joinWith [hyphen]
    [hex (id.bytes.take 4), hex ((id.bytes.drop 4).take 2), hex ((id.bytes.drop 6).take 2),
      hex ((id.bytes.drop 8).take 2), hex (id.bytes.drop 10)]

/-- The name of the unit of an entry. -/
def unitName (id : UnitId) : Bytes := "porthole-entry-" ++ id.text ++ ".service"

/-- A byte that a bus label keeps behind its first. -/
def keepsByte (b : UInt8) : Bool := isAlnum b

/-- A byte as it stands in a bus label. -/
def escapeByte (keep : UInt8 → Bool) (b : UInt8) : Bytes :=
  if keep b then [b] else underscore :: hexByte b

/-- A text as a bus label: letters and digits stay, a leading digit and every other byte become an
underscore and two hexadecimal digits, and the empty text is a single underscore. -/
def busLabel : Bytes → Bytes
  | [] => [underscore]
  | first :: rest => escapeByte isAlpha first ++ rest.flatMap (escapeByte keepsByte)

/-- The bytes that an escaped text stands for, if it is one. -/
def unescape? : Bytes → Option Bytes
  | [] => some []
  | underscore :: high :: low :: rest =>
    if isHex high && isHex low then
      (unescape? rest).map (UInt8.ofNat (16 * hexValue high + hexValue low) :: ·)
    else none
  | b :: rest => if isAlnum b then (unescape? rest).map (b :: ·) else none

/-- The text that a bus label stands for, if it is one. -/
def ofBusLabel? (label : Bytes) : Option Bytes :=
  if label = [underscore] then some [] else unescape? label

/-- The path under which a unit is published on the bus. -/
def unitPath (unit : Bytes) : Bytes := "/org/freedesktop/systemd1/unit/" ++ busLabel unit

end ContainerEntry.Door
