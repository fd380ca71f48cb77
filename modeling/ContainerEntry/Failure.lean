import ContainerEntry.Errno
import ContainerEntry.Text.Utf8
import ContainerEntry.Process.WaitStatus
import ContainerEntry.StopSignal

/-!
# Failures

Everything that can go wrong between a command line and the end of a session, as causes.  The
wording is in one place: `Failure.message` writes what a user reads after `Error: `.  Three of the
failures end in the words of a parser or of a bus library, which are no rule of this library, so
`message` takes them as `detail`.

A path is shown with a replacement character for each broken piece of it.
-/

namespace ContainerEntry

open Text

/-- A request to a message bus. -/
inductive BusRequest where
  /-- Connecting to the system bus. -/
  | connect
  /-- Addressing the registry of machines. -/
  | manager
  /-- Looking a machine up. -/
  | getMachine (machine : Bytes)
  /-- Reading a machine's leader. -/
  | leaderOf (machine : Bytes)
  /-- Signalling a machine. -/
  | killMachine (machine : Bytes)
  /-- Reading a property of a unit. -/
  | property (name unit : Bytes)
  deriving DecidableEq, Repr

/-- What a request is called. -/
def BusRequest.describe : BusRequest → Bytes
  | .connect => "connect to system bus"
  | .manager => "machined manager proxy"
  | .getMachine m => "GetMachine " ++ m
  | .leaderOf m => "Leader of " ++ m
  | .killMachine m => "KillMachine " ++ m
  | .property name unit => name ++ " of " ++ unit

/-- Why a user could not be resolved or assumed. -/
inductive UserCause where
  /-- A variable that names the caller holds no user id. -/
  | notUid (var value : Bytes)
  /-- The password database has no such user. -/
  | unknown (uid : Nat)
  /-- The password database could not be read. -/
  | lookup (uid : Nat) (errno : Errno)
  /-- The supplementary groups could not be set. -/
  | groups (user : Bytes) (errno : Errno)
  /-- The group could not be set. -/
  | group (gid : Nat) (errno : Errno)
  /-- The user could not be set. -/
  | user (uid : Nat) (errno : Errno)
  deriving DecidableEq, Repr

/-- The wording of a user failure. -/
def UserCause.describe : UserCause → Bytes
  | .notUid var value => var ++ "=" ++ value ++ " is not a uid"
  | .unknown uid => "uid " ++ decimal uid ++ " has no passwd entry"
  | .lookup uid e => "passwd lookup for uid " ++ decimal uid ++ ": " ++ e.symbolic
  | .groups name e => "initgroups for " ++ name ++ ": " ++ e.symbolic
  | .group gid e => "setgid " ++ decimal gid ++ ": " ++ e.symbolic
  | .user uid e => "setuid " ++ decimal uid ++ ": " ++ e.symbolic

/-- Why the terminal service gave no terminal. -/
inductive TransportCause where
  /-- The service's socket could not be reached. -/
  | connect (path : Bytes) (fault : Fault)
  /-- The service sent nothing in time. -/
  | timedOut
  /-- Nothing could be received. -/
  | receive (errno : Errno)
  /-- The control messages could not be read. -/
  | malformed (errno : Errno)
  /-- Some descriptors did not fit. -/
  | truncated
  /-- The path is longer than any terminal's. -/
  | tooLong (limit : Nat)
  /-- The reply has not one control message. -/
  | messageCount (n : Nat)
  /-- The reply has not one descriptor. -/
  | descriptorCount (n : Nat)
  /-- The path is no text. -/
  | notUtf8
  /-- The path is empty. -/
  | emptyPath
  deriving DecidableEq, Repr

/-- The wording of a transport failure. -/
def TransportCause.describe : TransportCause → Bytes
  | .connect path fault => "connect to " ++ display path ++ ": " ++ fault.describe
  | .timedOut => "timed out waiting for the PTY service"
  | .receive e => "recvmsg: " ++ e.symbolic
  | .malformed e => "malformed control messages: " ++ e.symbolic
  | .truncated => "control message was truncated"
  | .tooLong limit => "PTY path exceeds " ++ decimal limit ++ " bytes"
  | .messageCount n => "expected 1 control message, got " ++ decimal n
  | .descriptorCount n => "expected 1 descriptor, got " ++ decimal n
  | .notUtf8 => "PTY path is not valid UTF-8"
  | .emptyPath => "empty PTY path"

/-- Why a socket could not be connected inside another mount namespace. -/
inductive NamespaceCause where
  /-- The leader's namespace could not be opened. -/
  | openNamespace (path : Bytes) (fault : Fault)
  /-- No socket could be created. -/
  | createSocket (errno : Errno)
  /-- The connect helper could not be run. -/
  | runHelper (path : Bytes) (fault : Fault)
  /-- The connect helper failed with an exit code, or was killed. -/
  | helper (exit : Option Int)
  deriving DecidableEq, Repr

/-- The wording of the connect helper's end. -/
def NamespaceCause.describeExit : Option Int → Bytes
  | some 1 => "connect helper rejected its arguments"
  | some 2 => "connect helper could not join the mount namespace"
  | some 3 => "connect helper could not reach the bus socket"
  | some code => "connect helper exited with status " ++ decimalInt code
  | none => "connect helper was killed by a signal"

/-- The wording of a namespace failure. -/
def NamespaceCause.describe : NamespaceCause → Bytes
  | .openNamespace path fault => "open " ++ path ++ ": " ++ fault.describe
  | .createSocket e => "create socket: " ++ e.symbolic
  | .runHelper path fault => "failed to run " ++ display path ++ ": " ++ fault.describe
  | .helper exit => describeExit exit

/-- Why a program was not run. -/
inductive ExecCause where
  /-- The words hold no command. -/
  | expectedCommand
  /-- This process could not be replaced by the program. -/
  | replace (fault : Fault)
  /-- The program could not be started. -/
  | start (fault : Fault)
  /-- The security label is malformed. -/
  | invalidLabel (label : Bytes)
  deriving DecidableEq, Repr

/-- The wording of an execution failure. -/
def ExecCause.describe : ExecCause → Bytes
  | .expectedCommand => "expected a command"
  | .replace fault => "failed to exec: " ++ fault.describe
  | .start fault => fault.describe
  | .invalidLabel label => "invalid SELinux label: " ++ label

/-- Why the end of a process could not be read. -/
inductive WaitCause where
  /-- The process changed state without ending. -/
  | notEnded (pid : Int) (status : WaitStatus)
  /-- Waiting failed. -/
  | waiting (pid : Int) (errno : Errno)
  /-- The thread that waits broke down. -/
  | thread (why : Bytes)
  deriving DecidableEq, Repr

/-- The wording of a wait failure. -/
def WaitCause.describe : WaitCause → Bytes
  | .notEnded pid status => status.describe pid
  | .waiting pid e => "waitpid(" ++ decimalInt pid ++ ") failed: " ++ e.symbolic
  | .thread why => "wait task failed: " ++ why

/-- Why a terminal could not be set up. -/
inductive TerminalCause where
  /-- No session could be started. -/
  | session (errno : Errno)
  /-- The terminal could not be opened for a standard stream. -/
  | openFor (path : Bytes) (stream : Nat) (fault : Fault)
  /-- The terminal could not replace a standard stream. -/
  | replace (path : Bytes) (stream : Nat) (fault : Fault)
  /-- The attributes could not be read. -/
  | getAttributes (errno : Errno)
  /-- The attributes could not be set. -/
  | setAttributes (errno : Errno)
  /-- The saved attributes could not be set again. -/
  | restore (errno : Errno)
  /-- The window size could not be read. -/
  | getSize (fault : Fault)
  /-- The window size could not be set. -/
  | setSize (fault : Fault)
  deriving DecidableEq, Repr

/-- The wording of a terminal failure. -/
def TerminalCause.describe : TerminalCause → Bytes
  | .session e => "setsid: " ++ e.symbolic
  | .openFor path stream fault =>
    "open " ++ display path ++ " for fd " ++ decimal stream ++ ": " ++ fault.describe
  | .replace path stream fault =>
    "dup " ++ display path ++ " onto " ++ decimal stream ++ ": " ++ fault.describe
  | .getAttributes e => "tcgetattr: " ++ e.symbolic
  | .setAttributes e => "tcsetattr: " ++ e.symbolic
  | .restore e => "restore attributes: " ++ e.symbolic
  | .getSize fault => "TIOCGWINSZ: " ++ fault.describe
  | .setSize fault => "TIOCSWINSZ: " ++ fault.describe

/-- A rule of the settings that a value breaks. -/
inductive SettingCause where
  /-- The setting must be an absolute path. -/
  | notAbsolute (key : String) (value : Bytes)
  /-- The setting must be a plain file name. -/
  | notFileName (key : String) (value : Bytes)
  deriving DecidableEq, Repr

/-- The wording of a broken rule. -/
def SettingCause.describe : SettingCause → Bytes
  | .notAbsolute key value => key ++ " must be an absolute path, got '" ++ display value ++ "'"
  | .notFileName key value => key ++ " must be a plain file name, got '" ++ display value ++ "'"

/-- A failed operation. -/
inductive Failure where
  /-- Input or output failed. -/
  | io (fault : Fault)
  /-- The settings file could not be read. -/
  | settingsRead (path : Bytes) (fault : Fault)
  /-- The settings file is malformed. -/
  | settingsParse
  /-- A setting breaks a rule. -/
  | settingsInvalid (cause : SettingCause)
  /-- The text names no container. -/
  | invalidName (name : Bytes)
  /-- The container does not exist. -/
  | containerNotFound (name : Bytes)
  /-- The container's configuration is malformed. -/
  | containerConfig (path : Bytes)
  /-- The pattern cannot be matched. -/
  | invalidPattern (pattern : Bytes)
  /-- The machine is not registered. -/
  | machineNotRunning (machine : Bytes)
  /-- A user could not be resolved or assumed. -/
  | user (cause : UserCause)
  /-- Somebody else holds a lock. -/
  | lockUnavailable (path : Bytes)
  /-- A lock could not be opened. -/
  | lock (path : Bytes) (errno : Errno)
  /-- The terminal service gave no terminal. -/
  | transport (cause : TransportCause)
  /-- A process's namespace could not be entered. -/
  | namespaceEntry (pid : Int) (cause : NamespaceCause)
  /-- The container's bus could not be dialled. -/
  | busDial
  /-- A bus request failed. -/
  | bus (request : BusRequest)
  /-- A program was not run. -/
  | exec (command : Bytes) (cause : ExecCause)
  /-- The end of a process could not be read. -/
  | wait (cause : WaitCause)
  /-- A terminal could not be set up. -/
  | terminal (cause : TerminalCause)
  /-- A stop request does not suit a container. -/
  | unsupportedSignal (signal : StopSignal) (container : Bytes) (cause : StopSignal.Misfit)
  deriving DecidableEq, Repr

/-- The wording of a failure; `detail` stands for the words of a parser or of a bus library. -/
def Failure.message (detail : Bytes) : Failure → Bytes
  | .io fault => "IO error: " ++ fault.describe
  | .settingsRead path fault =>
    "Failed to read config file '" ++ display path ++ "': " ++ fault.describe
  | .settingsParse => "Failed to parse config: " ++ detail
  | .settingsInvalid cause => "Config validation failed: " ++ cause.describe
  | .invalidName name => "Invalid container name: " ++ name
  | .containerNotFound name => "Container '" ++ name ++ "' not found"
  | .containerConfig path =>
    "Failed to parse container config '" ++ display path ++ "': " ++ detail
  | .invalidPattern pattern => "Invalid container pattern '" ++ pattern ++ "'"
  | .machineNotRunning machine => "Container machine '" ++ machine ++ "' is not running"
  | .user cause => "Failed to resolve user: " ++ cause.describe
  | .lockUnavailable path => "Container is locked (" ++ display path ++ ")"
  | .lock path e => "Failed to lock '" ++ display path ++ "': " ++ e.symbolic
  | .transport cause => "PTY service transport error: " ++ cause.describe
  | .namespaceEntry pid cause =>
    "Failed to enter namespace of process " ++ decimalInt pid ++ ": " ++ cause.describe
  | .busDial => "Failed to dial container bus: " ++ detail
  | .bus request => "Bus request failed (" ++ request.describe ++ "): " ++ detail
  | .exec command cause => "Failed to execute '" ++ command ++ "': " ++ cause.describe
  | .wait cause => "Unexpected wait status: " ++ cause.describe
  | .terminal cause => "Terminal setup failed: " ++ cause.describe
  | .unsupportedSignal signal container cause =>
    "Signal '" ++ signal.name ++ "' cannot be sent to container '" ++ container ++ "': " ++
      cause.reason

end ContainerEntry
