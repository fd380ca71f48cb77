import ContainerEntry.Lock.Holders
import ContainerEntry.Stop

/-!
# A stop, call by call

`stop` makes a stop in one go, for a supervisor that lets the run lock go when the request arrives.
In general every call of a stop may fail, and between two of them others take and let go locks and
change files, on the container's directory and elsewhere.  A `Stopping` makes one call at a time: it
stands between two calls, next to what everybody holds, and remembers what it did.

A wait for the lock is a call that is made again until the lock is free, or until the system breaks
it off for another reason than an interruption.  A lock that was taken is kept until the process
dies, which is the end of the history.
-/

namespace ContainerEntry

/-- A request to stop a user's container. -/
structure StopRequest where
  /-- The container. -/
  container : Container
  /-- Its user. -/
  user : Bytes
  /-- What is asked of it. -/
  signal : StopSignal
  /-- Whether every process is meant. -/
  everyProcess : Bool

namespace StopRequest

/-- The signal that is sent, or the one that does not suit the container and why. -/
def resolve (q : StopRequest) : Except (StopSignal × StopSignal.Misfit) StopSignal :=
  q.signal.resolve q.container.config.boot q.everyProcess

/-- The container's machine. -/
def machine (q : StopRequest) : Bytes := q.container.machineName q.user

/-- The request to the bus. -/
def call (q : StopRequest) (sent : StopSignal) : BusCall :=
  .killMachine q.machine (stopScope q.everyProcess) sent.number

/-- The file whose lock is waited for. -/
def lockFile (q : StopRequest) : Bytes := Path.join q.container.path "run.lock"

end StopRequest

/-- What the system makes of the next call of a stop; each call looks at its own part. -/
structure StopAnswer where
  /-- Whether the bus can be reached. -/
  connects : Bool
  /-- Whether the registry of machines can be addressed. -/
  addresses : Bool
  /-- Whether the request reaches the bus. -/
  sends : Bool
  /-- Whether the bus says that the machine was signalled. -/
  signals : Bool
  /-- Why the lock file is not opened, besides what its path leads to. -/
  openFault : Option Errno
  /-- Why the wait for the lock is broken off. -/
  waitFault : Option Errno
  deriving DecidableEq, Repr

/-- The call that a stop makes next. -/
inductive StopStage where
  /-- None yet: the request is made to suit the container. -/
  | resolving
  /-- The bus is connected to. -/
  | connecting (sent : StopSignal)
  /-- The registry of machines is addressed. -/
  | addressing (sent : StopSignal)
  /-- The request is sent. -/
  | sending (sent : StopSignal)
  /-- The answer is waited for. -/
  | answering
  /-- The lock file is opened. -/
  | opening
  /-- The lock is waited for. -/
  | locking (inode : Inode)
  /-- None: the container has stopped, and this inode stays locked. -/
  | stopped (inode : Inode)
  /-- None: the stop was given up. -/
  | failed (failure : Failure)
  deriving DecidableEq, Repr

/-- Something that a stop did. -/
inductive StopAct where
  /-- It connected to the bus, or tried to. -/
  | connects
  /-- It addressed the registry of machines, or tried to. -/
  | addresses
  /-- Its request reached the bus. -/
  | calls (call : BusCall)
  /-- The bus said that the machine was signalled. -/
  | answered
  /-- It opened the lock file, or tried to. -/
  | opens
  /-- It took the lock. -/
  | locks (inode : Inode)
  deriving DecidableEq, Repr

/-- The request of an act. -/
def StopAct.call? : StopAct → Option BusCall
  | .calls call => some call
  | _ => none

/-- A stop between two calls. -/
structure Stopping where
  /-- The next call. -/
  stage : StopStage
  /-- What the stop did. -/
  acts : List StopAct
  /-- The files, and what everybody holds, the stop included. -/
  holders : Lock.Holders

namespace Stopping

/-- A stop that has not begun. -/
def start (holders : Lock.Holders) : Stopping := ⟨.resolving, [], holders⟩

/-- The requests of a stop that reached the bus. -/
def calls (s : Stopping) : List BusCall := s.acts.filterMap StopAct.call?

/-- The stop after an act. -/
def note (s : Stopping) (act : StopAct) : Stopping := { s with acts := s.acts ++ [act] }

/-- The stop before another call. -/
def goOn (s : Stopping) (stage : StopStage) : Stopping := { s with stage := stage }

/-- The stop given up. -/
def fail (s : Stopping) (failure : Failure) : Stopping := s.goOn (.failed failure)

/-- The stop with the lock, which it keeps until its process dies. -/
def keep (s : Stopping) (i : Inode) : Stopping where
  stage := .stopped i
  acts := s.acts ++ [.locks i]
  holders := { s.holders with
    space := s.holders.space.lock i
    untilDeath := ⟨.run, [i]⟩ :: s.holders.untilDeath }

/-- The stop after it was made to suit the container. -/
def resolve (q : StopRequest) (s : Stopping) : Stopping :=
  match q.resolve with
  | .error (signal, cause) => s.fail (.unsupportedSignal signal q.container.name cause)
  | .ok sent => s.goOn (.connecting sent)

/-- The stop after its request was sent; no text on the bus holds a NUL. -/
def send (q : StopRequest) (a : StopAnswer) (sent : StopSignal) (s : Stopping) : Stopping :=
  if q.machine.contains Bytes.nul || !a.sends then s.fail (.bus (.killMachine q.machine))
  else (s.note (.calls (q.call sent))).goOn .answering

/-- The stop after the lock file was opened, or not. -/
def openLock (q : StopRequest) (a : StopAnswer) (s : Stopping) : Stopping :=
  match a.openFault with
  | some errno => s.fail (.lock q.lockFile errno)
  | none =>
    match s.holders.space.openTarget (.file q.lockFile) with
    | .error fault => s.fail (.lock q.lockFile (fault.errno?.getD .ioError))
    | .ok (i, space) => { s with
        stage := .locking i
        holders := { s.holders with space := space } }

/-- The stop after it waited for the lock for a while. -/
def await (q : StopRequest) (a : StopAnswer) (i : Inode) (s : Stopping) : Stopping :=
  match a.waitFault with
  | some errno =>
    if errno = .interrupted then s
    else if errno = .wouldBlock then s.fail (.lockUnavailable q.lockFile)
    else s.fail (.lock q.lockFile errno)
  | none => if s.holders.space.locked.contains i then s else s.keep i

/-- The stop after its next call. -/
def step (q : StopRequest) (a : StopAnswer) (s : Stopping) : Stopping :=
  match s.stage with
  | .resolving => s.resolve q
  | .connecting sent =>
    if a.connects then (s.note .connects).goOn (.addressing sent)
    else (s.note .connects).fail (.bus .connect)
  | .addressing sent =>
    if a.addresses then (s.note .addresses).goOn (.sending sent)
    else (s.note .addresses).fail (.bus .manager)
  | .sending sent => s.send q a sent
  | .answering =>
    if a.signals then (s.note .answered).goOn .opening
    else s.fail (.bus (.killMachine q.machine))
  | .opening => (s.note .opens).openLock q a
  | .locking i => s.await q a i
  | .stopped _ | .failed _ => s

end Stopping

/-- A turn while a stop goes on. -/
inductive StopTurn where
  /-- The stop makes its next call. -/
  | own (answer : StopAnswer)
  /-- Something happens on a directory. -/
  | other (directory : Bytes) (event : Lock.Event)
  deriving DecidableEq, Repr

/-- Whether a turn is somebody else's. -/
def StopTurn.isOther : StopTurn → Bool
  | .own _ => false
  | .other _ _ => true

namespace Stopping

/-- The stop after a turn. -/
def turn (q : StopRequest) (s : Stopping) : StopTurn → Stopping
  | .own answer => s.step q answer
  | .other directory event => { s with holders := (s.holders.step directory event).2 }

/-- The stop after turns. -/
def run (q : StopRequest) (s : Stopping) (turns : List StopTurn) : Stopping :=
  turns.foldl (turn q) s

end Stopping

end ContainerEntry
