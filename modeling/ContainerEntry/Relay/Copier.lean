import ContainerEntry.Relay.Copy

/-!
# A copy, call by call

`copy` follows scripts, and a script ends.  The ends of a copy may go on forever, and may fail at
any call, so a `Copier` makes one call at a time: it stands between two calls, the ends say what the
next ones do, and every state that it passes through is a moment at which somebody may look at what
the writer has accepted.

A chunk is put in attempts.  An attempt writes what is left of the chunk until nothing is, and then
flushes; where the peer is missing and no chunk has got through yet, the next attempt starts with the
whole chunk again.  The copier keeps apart what such an attempt got accepted before it was given up
(`spoilt`) and what the present one did (`taken`).
-/

namespace ContainerEntry.Relay

/-- The ends of a copy, by what the calls to come do. -/
structure Ends where
  /-- What the next reads yield. -/
  reads : Nat → ReadResult
  /-- What the next writes do. -/
  writes : Nat → WriteResult
  /-- What the next flushes do. -/
  flushes : Nat → Option Fault

namespace Ends

/-- Ends that follow scripts; behind them the input ends, every write accepts everything and every
flush succeeds. -/
def ofScripts (reads : List ReadResult) (writes : List WriteResult)
    (flushes : List (Option Fault)) : Ends where
  reads i := reads.getD i (.bytes [])
  writes i := writes.getD i .everything
  flushes i := flushes.getD i none

/-- The ends behind a read. -/
def afterRead (e : Ends) : Ends := { e with reads := fun i => e.reads (i + 1) }

/-- The ends behind a write. -/
def afterWrite (e : Ends) : Ends := { e with writes := fun i => e.writes (i + 1) }

/-- The ends behind a flush. -/
def afterFlush (e : Ends) : Ends := { e with flushes := fun i => e.flushes (i + 1) }

end Ends

/-- The call that a copy makes next. -/
inductive Stage where
  /-- A read. -/
  | reading
  /-- A write. -/
  | writing
  /-- A flush. -/
  | flushing
  /-- None: the copy has ended. -/
  | ended (outcome : CopyOutcome)
  deriving DecidableEq, Repr

/-- A copy between two calls. -/
structure Copier where
  /-- The ends. -/
  ends : Ends
  /-- The next call. -/
  stage : Stage
  /-- The chunks that were read. -/
  chunks : List Bytes
  /-- The chunks that have got through: written whole and flushed. -/
  through : List Bytes
  /-- What was accepted in attempts that were made again. -/
  spoilt : Bytes
  /-- What of the chunk that is being put was accepted in this attempt. -/
  taken : Bytes
  /-- What is left of it. -/
  left : Bytes
  /-- Everything that was accepted. -/
  accepted : Bytes

namespace Copier

/-- A copy that has not begun. -/
def start (ends : Ends) : Copier := ⟨ends, .reading, [], [], [], [], [], []⟩

/-- How many bytes have got through. -/
def count (c : Copier) : Nat := c.through.flatten.length

/-- Whether a fault tells that the peer is still missing. -/
def awaitsPeer (c : Copier) (f : Fault) : Bool := f.isHangUp && c.through.isEmpty

/-- The copy ended by a fault. -/
def giveUp (c : Copier) (f : Fault) : Copier :=
  { c with stage := .ended (if f.isHangUp then .hungUp c.count else .failed f) }

/-- The copy after an attempt that failed: it is made again from the start of the chunk, or the copy
ends. -/
def failAttempt (c : Copier) (f : Fault) : Copier :=
  if c.awaitsPeer f then
    { c with
      stage := .writing
      spoilt := c.spoilt ++ c.taken
      taken := []
      left := c.taken ++ c.left }
  else c.giveUp f

/-- The copy after a write that accepts so many bytes. -/
def accept (c : Copier) (n : Nat) : Copier :=
  { c with
    stage := if (c.left.drop n).isEmpty then .flushing else .writing
    taken := c.taken ++ c.left.take n
    left := c.left.drop n
    accepted := c.accepted ++ c.left.take n }

/-- The copy after a read. -/
def read (c : Copier) (result : ReadResult) : Copier :=
  match result with
  | .bytes [] => { c with stage := .ended (.finished c.count) }
  | .bytes chunk => { c with stage := .writing, chunks := c.chunks ++ [chunk], left := chunk }
  | .fault f => if f.isInterrupted || c.awaitsPeer f then c else c.giveUp f

/-- The copy after a write. -/
def write (c : Copier) (result : WriteResult) : Copier :=
  match result with
  | .everything => c.accept c.left.length
  | .atMost 0 => c.giveUp .writeZero
  | .atMost n => c.accept n
  | .fault f => if f.isInterrupted then c else c.failAttempt f

/-- The copy after a flush. -/
def flush (c : Copier) (result : Option Fault) : Copier :=
  match result with
  | none => { c with stage := .reading, through := c.through ++ [c.taken], taken := [] }
  | some f => c.failAttempt f

/-- The copy after its next call. -/
def step (c : Copier) : Copier :=
  match c.stage with
  | .reading => { c with ends := c.ends.afterRead }.read (c.ends.reads 0)
  | .writing => { c with ends := c.ends.afterWrite }.write (c.ends.writes 0)
  | .flushing => { c with ends := c.ends.afterFlush }.flush (c.ends.flushes 0)
  | .ended _ => c

/-- The copy after so many calls. -/
def run (c : Copier) : Nat → Copier
  | 0 => c
  | n + 1 => (c.run n).step

end Copier

end ContainerEntry.Relay
