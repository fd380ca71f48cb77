import ContainerEntry.Errno

/-!
# Copying between a terminal and its peer

A copy reads chunks and writes each of them whole.  Until the first chunk has got through, a terminal
without a peer is one that nobody has opened yet, so the copy tries again; afterwards it is one whose
peer has left, and the copy ends.

Both ends answer by a script: what each read yields, and what each write and each flush does.  A
write may accept a part only, and the rest is written again; when a chunk has to be tried again it is
written from its start, whatever was accepted of it before.
-/

namespace ContainerEntry.Relay

/-- What a read yields; no bytes are the end of the input. -/
inductive ReadResult where
  /-- Bytes. -/
  | bytes (chunk : Bytes)
  /-- A failure. -/
  | fault (f : Fault)
  deriving DecidableEq, Repr

/-- What a write does. -/
inductive WriteResult where
  /-- It accepts at most so many bytes. -/
  | atMost (n : Nat)
  /-- It accepts everything. -/
  | everything
  /-- It fails. -/
  | fault (f : Fault)
  deriving DecidableEq, Repr

/-- A call that was made on one of the ends. -/
inductive Act where
  /-- A read yielded so many bytes. -/
  | read (n : Nat)
  /-- A write accepted so many bytes. -/
  | wrote (n : Nat)
  /-- The writer was flushed. -/
  | flushed
  deriving DecidableEq, Repr

/-- How a copy ended. -/
inductive CopyOutcome where
  /-- The input ended after so many bytes. -/
  | finished (bytes : Nat)
  /-- The peer left after so many bytes. -/
  | hungUp (bytes : Nat)
  /-- An end failed. -/
  | failed (f : Fault)
  deriving DecidableEq, Repr

/-- How many bytes a read yields at most. -/
def bufferSize : Nat := 4096

/-- The reads that deliver some data, at most `fuel` of them. -/
def readsWithin : (fuel : Nat) → Bytes → List ReadResult
  | 0, _ => []
  | fuel + 1, data =>
    match data.drop bufferSize with
    | [] => [.bytes data]
    | more => .bytes (data.take bufferSize) :: readsWithin fuel more

/-- The reads that deliver some data; data without bytes is read as the end of the input. -/
def readsOf (data : Bytes) : List ReadResult := readsWithin (data.length + 1) data

/-- A writer, by what it will do and what it has done. -/
structure Sink where
  /-- What the next writes do; behind them, every write accepts everything. -/
  writes : List WriteResult
  /-- What the next flushes do; behind them, every flush succeeds. -/
  flushes : List (Option Fault)
  /-- The bytes accepted so far. -/
  accepted : Bytes
  /-- The calls made so far. -/
  acts : List Act
  deriving Repr

/-- What came of writing bytes whole. -/
structure WriteRun where
  /-- The failure that ended it. -/
  fault : Option Fault
  /-- The writes that were not made. -/
  left : List WriteResult
  /-- The bytes that were accepted. -/
  accepted : Bytes
  /-- The calls that were made. -/
  acts : List Act
  deriving Repr

/-- Writes bytes whole: a part that is left is written again, and so is one that a signal
interrupted.  A write that accepts nothing is a failure. -/
def writeWhole : List WriteResult → Bytes → WriteRun
  | writes, [] => ⟨none, writes, [], []⟩
  | [], buffer => ⟨none, [], buffer, [.wrote buffer.length]⟩
  | .everything :: writes, buffer => ⟨none, writes, buffer, [.wrote buffer.length]⟩
  | .fault f :: writes, buffer =>
    if f.isInterrupted then writeWhole writes buffer else ⟨some f, writes, [], []⟩
  | .atMost 0 :: writes, _ => ⟨some .writeZero, writes, [], [.wrote 0]⟩
  | .atMost n :: writes, buffer =>
    let taken := buffer.take n
    let run := writeWhole writes (buffer.drop n)
    { run with accepted := taken ++ run.accepted, acts := .wrote taken.length :: run.acts }

namespace Sink

/-- The sink after a call. -/
def note (s : Sink) (act : Act) : Sink := { s with acts := s.acts ++ [act] }

/-- Writes a chunk whole and flushes it. -/
def put (s : Sink) (chunk : Bytes) : Option Fault × Sink :=
  let run := writeWhole s.writes chunk
  let s := { s with
    writes := run.left, accepted := s.accepted ++ run.accepted, acts := s.acts ++ run.acts }
  match run.fault with
  | some f => (some f, s)
  | none => (s.flushes.head?.join, { s.note .flushed with flushes := s.flushes.drop 1 })

/-- Puts a chunk, and tries again while the peer is missing and nothing has got through; every
failure uses up a step of the script. -/
def putUntil (started : Bool) (chunk : Bytes) : Nat → Sink → Option Fault × Sink
  | 0, s => (none, s)
  | tries + 1, s =>
    match s.put chunk with
    | (some f, s) =>
      if f.isHangUp && !started then putUntil started chunk tries s else (some f, s)
    | (none, s) => (none, s)

/-- How often a chunk may have to be tried. -/
def patience (s : Sink) : Nat := s.writes.length + s.flushes.length + 1

end Sink

/-- Copies what the reads yield, after so many bytes have got through. -/
def copyFrom : (transferred : Nat) → List ReadResult → Sink → CopyOutcome × Sink
  | n, [], s => (.finished n, s)
  | n, .bytes [] :: _, s => (.finished n, s.note (.read 0))
  | n, .bytes chunk :: reads, s =>
    let s := s.note (.read chunk.length)
    match s.putUntil (n != 0) chunk s.patience with
    | (none, s) => copyFrom (n + chunk.length) reads s
    | (some f, s) => (if f.isHangUp then .hungUp n else .failed f, s)
  | n, .fault f :: reads, s =>
    if f.isInterrupted then copyFrom n reads s
    else if f.isHangUp then
      if n = 0 then copyFrom n reads s else (.hungUp n, s)
    else (.failed f, s)

/-- Copies what the reads yield into a writer. -/
def copy (reads : List ReadResult) (writes : List WriteResult) (flushes : List (Option Fault)) :
    CopyOutcome × Sink :=
  copyFrom 0 reads ⟨writes, flushes, [], []⟩

end ContainerEntry.Relay
