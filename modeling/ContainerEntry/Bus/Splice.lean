import ContainerEntry.Errno

/-!
# Splicing two connections

Two pumps carry bytes between two sockets, one in each direction.  A pump copies: it reads from its
source and writes what it has read to its target, until the source has ended or a call fails.  Behind
a source that has ended it shuts the target for writing, so that the peer there sees the end too.  A
copy that failed is torn down: the pump shuts its source in both directions and then its target in
both directions, which ends the other pump as well.

The two pumps share both sockets.  The source of one is the target of the other, so what one of them
shuts is what the other one meets at its next call.  Sockets are reliable and in order.

`Leg.step?` is one system call of a pump, or one of the peer at its source, and `Splice.run?` is a
list of such steps in the two directions, so every interleaving is such a list.  A call that a signal
interrupts is made again, which changes nothing and is no step.  `exchange` is the run in which both
peers send everything at once and then end their sending.
-/

namespace ContainerEntry.Bus

/-! ### Connections and pumps -/

/-- A socket of a splice, and what its peer does with it. -/
structure Connection where
  /-- What the peer has sent. -/
  sent : Bytes
  /-- Whether the peer has ended its sending. -/
  ended : Bool
  /-- What was sent and not read. -/
  unread : Bytes
  /-- What was written, which the peer has received. -/
  received : Bytes
  /-- Whether the socket is shut for reading. -/
  readShut : Bool
  /-- Whether the socket is shut for writing, so that the peer sees the end. -/
  writeShut : Bool
  deriving DecidableEq, Repr

namespace Connection

/-- A connection on which nothing has happened. -/
def idle : Connection := ⟨[], false, [], [], false, false⟩

/-- The peer sends. -/
def send (c : Connection) (bytes : Bytes) : Connection :=
  { c with sent := c.sent ++ bytes, unread := c.unread ++ bytes }

/-- Whether the peer can send no more: it has ended its sending, or nobody is going to read. -/
def isClosed (c : Connection) : Bool := c.ended || c.readShut

/-- Whether a read sees the end. -/
def isDry (c : Connection) : Bool := c.isClosed && c.unread.isEmpty

/-- The socket shut in both directions. -/
def shut (c : Connection) : Connection := { c with readShut := true, writeShut := true }

end Connection

/-- Where a pump stands. -/
inductive Phase where
  /-- It copies. -/
  | copying
  /-- Its source has ended, and everything was passed on; the target is to be shut for writing. -/
  | ending
  /-- It is over, and everything was passed on. -/
  | finished
  /-- A call failed; the source is to be shut. -/
  | tearing (fault : Fault)
  /-- A call failed, and the source is shut; the target is to be shut. -/
  | closing (fault : Fault)
  /-- It is over, since a call failed. -/
  | failed (fault : Fault)
  deriving DecidableEq, Repr

namespace Phase

/-- What has failed. -/
def fault? : Phase → Option Fault
  | .copying | .ending | .finished => none
  | .tearing fault | .closing fault | .failed fault => some fault

/-- Whether a pump is over. -/
def isOver : Phase → Bool
  | .finished | .failed _ => true
  | .copying | .ending | .tearing _ | .closing _ => false

end Phase

/-- A pump. -/
structure Pump where
  /-- What it has read and not written. -/
  pending : Bytes
  /-- Where it stands. -/
  phase : Phase
  deriving DecidableEq, Repr

/-- One direction of a splice: a pump between its source and its target. -/
structure Leg where
  /-- The socket that is read. -/
  source : Connection
  /-- The socket that is written. -/
  target : Connection
  /-- The pump. -/
  pump : Pump
  deriving DecidableEq, Repr

/-! ### Steps -/

/-- A step of the peer at the source, or of the pump. -/
inductive SpliceStep where
  /-- The peer sends. -/
  | send (bytes : Bytes)
  /-- The peer ends its sending. -/
  | endSending
  /-- The pump reads at most so many bytes. -/
  | read (most : Nat)
  /-- The pump writes at most so many bytes. -/
  | write (most : Nat)
  /-- The pump reads and sees the end. -/
  | seeEnd
  /-- The pump shuts the socket that is to be shut. -/
  | shut
  /-- A read or a write of the pump fails. -/
  | fail (fault : Fault)
  deriving DecidableEq, Repr

/-- Whether a step is the pump's. -/
def SpliceStep.isPumps : SpliceStep → Bool
  | .send _ | .endSending => false
  | .read _ | .write _ | .seeEnd | .shut | .fail _ => true

namespace Leg

/-- Whether the pump's next call is a read: it copies, and everything that it has read is written. -/
def isReading (l : Leg) : Bool := l.pump.phase = .copying && l.pump.pending.isEmpty

/-- Whether the pump's next call is a write. -/
def isWriting (l : Leg) : Bool := l.pump.phase = .copying && !l.pump.pending.isEmpty

/-- The leg with its pump somewhere else. -/
def enter (l : Leg) (phase : Phase) : Leg := { l with pump := { l.pump with phase := phase } }

/-- The leg after a read. -/
def read (l : Leg) (most : Nat) : Leg := { l with
  source := { l.source with unread := l.source.unread.drop most }
  pump := ⟨l.source.unread.take most, .copying⟩ }

/-- The leg after a write. -/
def write (l : Leg) (most : Nat) : Leg := { l with
  target := { l.target with received := l.target.received ++ l.pump.pending.take most }
  pump := ⟨l.pump.pending.drop most, .copying⟩ }

/-- The leg after its pump has shut the socket that is to be shut, if one is. -/
def shut? (l : Leg) : Option Leg :=
  match l.pump.phase with
  | .ending => some { l.enter .finished with target := { l.target with writeShut := true } }
  | .tearing fault => some { l.enter (.closing fault) with source := l.source.shut }
  | .closing fault => some { l.enter (.failed fault) with target := l.target.shut }
  | .copying | .finished | .failed _ => none

/-- The leg after a step, or `none` when the step cannot be taken.  What a peer sends is refused once
nobody is going to read it; what a pump writes is refused once its target is shut for writing; and
a socket that is shut for reading still gives what was sent before. -/
def step? (l : Leg) : SpliceStep → Option Leg
  | .send bytes =>
    if l.source.isClosed then none else some { l with source := l.source.send bytes }
  | .endSending =>
    if l.source.ended then none else some { l with source := { l.source with ended := true } }
  | .read most =>
    if l.isReading && !l.source.unread.isEmpty && most != 0 then some (l.read most) else none
  | .write most =>
    if l.isWriting && most != 0 then
      some (if l.target.writeShut then l.enter (.tearing (.os .brokenPipe)) else l.write most)
    else none
  | .seeEnd => if l.isReading && l.source.isDry then some (l.enter .ending) else none
  | .shut => l.shut?
  | .fail fault =>
    if l.pump.phase = .copying && !fault.isInterrupted then some (l.enter (.tearing fault))
    else none

/-- How many bytes a pump reads at once. -/
def chunkSize : Nat := 8192

/-- The call that a pump makes next, if it need not wait and no call fails of itself. -/
def next? (l : Leg) : Option SpliceStep :=
  if l.isWriting then some (.write chunkSize)
  else if l.isReading then
    if !l.source.unread.isEmpty then some (.read chunkSize)
    else if l.source.isDry then some .seeEnd
    else none
  else if l.pump.phase.isOver then none
  else some .shut

end Leg

/-! ### Splices -/

/-- A direction of a splice. -/
inductive Direction where
  /-- From the first connection to the second. -/
  | forth
  /-- From the second connection to the first. -/
  | back
  deriving DecidableEq, Repr

/-- The other direction. -/
def Direction.flip : Direction → Direction
  | .forth => .back
  | .back => .forth

/-- Two connections that are spliced. -/
structure Splice where
  /-- The first connection. -/
  first : Connection
  /-- The second connection. -/
  second : Connection
  /-- The pump from the first connection to the second. -/
  forth : Pump
  /-- The pump from the second connection to the first. -/
  back : Pump
  deriving DecidableEq, Repr

namespace Splice

/-- Two connections between which nothing has passed. -/
def idle : Splice := ⟨.idle, .idle, ⟨[], .copying⟩, ⟨[], .copying⟩⟩

/-- The leg of a direction. -/
def leg (s : Splice) : Direction → Leg
  | .forth => ⟨s.first, s.second, s.forth⟩
  | .back => ⟨s.second, s.first, s.back⟩

/-- The splice with the leg of a direction changed. -/
def setLeg (s : Splice) (d : Direction) (l : Leg) : Splice :=
  match d with
  | .forth => { s with first := l.source, second := l.target, forth := l.pump }
  | .back => { s with second := l.source, first := l.target, back := l.pump }

/-- What the peer at the source of a direction has sent. -/
def sent (s : Splice) (d : Direction) : Bytes := (s.leg d).source.sent

/-- Whether the peer at the source of a direction has ended its sending. -/
def hasEnded (s : Splice) (d : Direction) : Bool := (s.leg d).source.ended

/-- What the peer at the target of a direction has received. -/
def received (s : Splice) (d : Direction) : Bytes := (s.leg d).target.received

/-- Whether the peer at the target of a direction sees the end. -/
def seesEnd (s : Splice) (d : Direction) : Bool := (s.leg d).target.writeShut

/-- What has failed in a direction. -/
def fault? (s : Splice) (d : Direction) : Option Fault := (s.leg d).pump.phase.fault?

/-- Whether a copy has failed. -/
def hasFailed (s : Splice) : Bool := (s.fault? .forth).isSome || (s.fault? .back).isSome

/-- The splice after a step in a direction, or `none` when the step cannot be taken. -/
def step? (s : Splice) (d : Direction) (step : SpliceStep) : Option Splice :=
  ((s.leg d).step? step).map (s.setLeg d)

/-- The splice after steps, or `none` when one of them cannot be taken. -/
def run? : Splice → List (Direction × SpliceStep) → Option Splice
  | s, [] => some s
  | s, (d, step) :: steps => (s.step? d step).bind (run? · steps)

/-- What a splice returns once both pumps are over: the first direction's failure, if there is one,
and then the second's. -/
def result? (s : Splice) : Option (Except Fault Unit) :=
  if s.forth.phase.isOver && s.back.phase.isOver then
    match s.fault? .forth, s.fault? .back with
    | some fault, _ => some (.error fault)
    | none, some fault => some (.error fault)
    | none, none => some (.ok ())
  else none

/-- Whether a splice has returned without a failure. -/
def succeeded (s : Splice) : Bool :=
  match s.result? with
  | some (.ok ()) => true
  | _ => false

/-- The splice after at most so many calls of its pumps, the first one's while it can go on. -/
def goOn : Nat → Splice → Splice
  | 0, s => s
  | calls + 1, s =>
    let d : Direction := if (s.leg .forth).next?.isSome then .forth else .back
    match ((s.leg d).next?).bind (s.step? d) with
    | some s => goOn calls s
    | none => s

/-- Both peers send and end their sending, and both pumps go on until they have carried it. -/
def exchange (forth back : Bytes) : Splice :=
  let sending (bytes : Bytes) : Connection := { Connection.idle.send bytes with ended := true }
  goOn (2 * (forth.length + back.length) + 6)
    { idle with first := sending forth, second := sending back }

end Splice

end ContainerEntry.Bus
