import ContainerEntry.Caller
import ContainerEntry.Entry.Request
import ContainerEntry.Entry.Streams
import ContainerEntry.Filesystem.Tree

/-!
# Launching the workload

Inside the container, the entry helper turns itself into the workload: it puts terminals onto its
standard streams, becomes the user, goes to the directory, and replaces itself by the command.  The
order matters.  Terminals are opened while the process is still root's, groups are set before the
user is, and the directory is entered with the user's rights.

`System` answers every call that can fail, each call of a launch by itself.  Two refusals are
tolerated: a process that already leads a session keeps it, and a directory that cannot be entered is
replaced by the user's home, or left.
Every other refusal ends the launch, so an `Attempt` is made only by a process that has gone through
all steps.

Every helper here starts as root.  One that does not could only launch a workload for the user that
it runs as already; that branch is left out.
-/

namespace ContainerEntry.Entry

open Bytes

/-- What a process has that a workload inherits. -/
structure Process where
  /-- The user. -/
  uid : Nat
  /-- The group. -/
  gid : Nat
  /-- The supplementary groups. -/
  groups : List Nat
  /-- What each standard stream was replaced by. -/
  replaced : Stream → Option Inode
  /-- Whether the process leads a session. -/
  leadsSession : Bool
  /-- The working directory. -/
  cwd : Inode

/-- What the system answers to the calls of a launch. -/
structure System where
  /-- Starting a session. -/
  startSession : Option Errno
  /-- Opening a terminal for a standard stream. -/
  openTerminal : Stream → Bytes → Except Fault Inode
  /-- Replacing a standard stream. -/
  replaceStream : Stream → Option Fault
  /-- Looking an account up. -/
  account : UInt32 → Except Errno (Option Account)
  /-- The groups that name an account as a member. -/
  groupsOf : Account → List Nat
  /-- Setting the supplementary groups. -/
  setGroups : Option Errno
  /-- Setting the group. -/
  setGroup : Option Errno
  /-- Setting the user. -/
  setUser : Option Errno
  /-- Entering the directory that was asked for. -/
  changeDirectory : Bytes → Except Errno Inode
  /-- Entering the home instead. -/
  enterHome : Bytes → Except Errno Inode

/-- A process after a step, and the failure that ends the launch. -/
abbrev Stepped := Option Failure × Process

/-- The next step, unless the launch has ended. -/
def Stepped.andThen (s : Stepped) (next : Process → Stepped) : Stepped :=
  match s with
  | (some failure, p) => (some failure, p)
  | (none, p) => next p

namespace Process

/-- The process with a standard stream replaced. -/
def withStream (p : Process) (stream : Stream) (i : Inode) : Process :=
  { p with replaced := fun s => if s = stream then some i else p.replaced s }

/-- Starts a session, or keeps the one that the process leads. -/
def startSession (sys : System) (p : Process) : Stepped :=
  match sys.startSession with
  | none => (none, { p with leadsSession := true })
  | some e => if e = .notPermitted then (none, p) else (some (.terminal (.session e)), p)

/-- Replaces a standard stream by the terminal of a path, if there is one for it.  The terminal of
the standard input is opened as the leader of a session, which makes it the controlling one. -/
def attachOne (sys : System) (stream : Stream) (path : Option Bytes) (p : Process) : Stepped :=
  match path with
  | none => (none, p)
  | some path =>
    Stepped.andThen (if stream = .stdin then startSession sys p else (none, p)) fun p =>
      match sys.openTerminal stream path with
      | .error fault => (some (.terminal (.openFor path stream.descriptor fault)), p)
      | .ok i =>
        match sys.replaceStream stream with
        | some fault => (some (.terminal (.replace path stream.descriptor fault)), p)
        | none => (none, p.withStream stream i)

/-- Replaces the standard streams that have a terminal, in the order of their descriptors. -/
def attach (sys : System) (stdin stdout stderr : Option Bytes) (p : Process) : Stepped :=
  ((p.attachOne sys .stdin stdin).andThen fun p => p.attachOne sys .stdout stdout).andThen
    fun p => p.attachOne sys .stderr stderr

/-- Becomes the user of an account: first the groups, then the group, then the user. -/
def become (sys : System) (account : Account) (p : Process) : Stepped :=
  match sys.setGroups with
  | some e => (some (.user (.groups account.name e)), p)
  | none =>
    let p := { p with groups := account.gid :: sys.groupsOf account }
    match sys.setGroup with
    | some e => (some (.user (.group account.gid e)), p)
    | none =>
      let p := { p with gid := account.gid }
      match sys.setUser with
      | some e => (some (.user (.user account.uid.toNat e)), p)
      | none => (none, { p with uid := account.uid.toNat })

/-- Enters a directory, or else the home, or else stays. -/
def enterDirectory (sys : System) (cwd home : Bytes) (p : Process) : Process :=
  match sys.changeDirectory cwd with
  | .ok i => { p with cwd := i }
  | .error _ =>
    match sys.enterHome home with
    | .ok i => { p with cwd := i }
    | .error _ => p

end Process

/-- The variable of sessions that do not replay the container's startup output. -/
def noReplayVariable : Bytes := "PORTHOLE_NO_REPLAY"

/-- The environment of a workload: what was inherited, overridden by what was asked for. -/
def Request.environment (r : Request) (inherited : List (Bytes × Bytes)) : Environ :=
  let environ := (Environ.ofList inherited).insertAll r.environ
  if r.noReplay then environ.insert noReplayVariable "1" else environ

/-- An attempt to replace the process by a program. -/
structure Attempt where
  /-- The program's words. -/
  words : List Bytes
  /-- The program's environment. -/
  environ : Environ

/-- What a launch came to. -/
structure Launch where
  /-- The attempt to replace the process, or why there was none. -/
  attempt : Except Failure Attempt
  /-- The process at that moment. -/
  process : Process

/-- Makes a process ready for the workload that a request asks for. -/
def launch (sys : System) (inherited : List (Bytes × Bytes)) (r : Request) (p : Process) :
    Launch :=
  match p.attach sys r.stdin r.stdout r.stderr with
  | (some failure, p) => ⟨.error failure, p⟩
  | (none, p) =>
    match sys.account r.uid with
    | .error e => ⟨.error (.user (.lookup r.uid.toNat e)), p⟩
    | .ok none => ⟨.error (.user (.unknown r.uid.toNat)), p⟩
    | .ok (some account) =>
      match p.become sys account with
      | (some failure, p) => ⟨.error failure, p⟩
      | (none, p) =>
        let p := p.enterDirectory sys r.cwd account.home
        if r.command.isEmpty then ⟨.error missingCommand, p⟩
        else ⟨.ok ⟨r.command, r.environment inherited⟩, p⟩

/-- The failure of a request whose command could not be run. -/
def Request.notRun (r : Request) (fault : Fault) : Failure :=
  .exec (joinWith [space] r.command) (.replace fault)

end ContainerEntry.Entry
