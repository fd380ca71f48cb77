import ContainerEntry.Failure

/-!
# Handing over a terminal

The terminal service answers with one message: the path of a terminal inside the container as its
bytes, and the terminal's master as the only descriptor of the only control message.  A client that
refuses an answer must not keep the descriptors that came with it, so a handoff accounts for each of
them: `validate` owns every descriptor before it checks anything, and what it does not hand on is
closed.

The client reserves a few slots for descriptors.  When a message carries more, the system installs
as many as fit and marks the message; a marked message's control data cannot be read at all.
-/

namespace ContainerEntry.Pty

open Bytes Text

/-- A descriptor that was sent. -/
abbrev Descriptor := Nat

/-- A control message of an answer. -/
inductive ControlMessage where
  /-- Descriptors. -/
  | rights (descriptors : List Descriptor)
  /-- Anything else. -/
  | other
  deriving DecidableEq, Repr

/-- The descriptors of a control message. -/
def ControlMessage.descriptors : ControlMessage → List Descriptor
  | .rights ds => ds
  | .other => []

/-- An answer as it was received. -/
structure Answer where
  /-- The bytes. -/
  payload : Bytes
  /-- Whether control data did not fit. -/
  controlTruncated : Bool
  /-- Whether bytes did not fit. -/
  truncated : Bool
  /-- The control messages. -/
  messages : List ControlMessage
  deriving DecidableEq, Repr

/-- The descriptors of an answer. -/
def Answer.descriptors (a : Answer) : List Descriptor :=
  a.messages.flatMap ControlMessage.descriptors

/-- A terminal that was handed over. -/
structure Master where
  /-- The terminal's path inside the container. -/
  path : Bytes
  /-- The descriptor of its master. -/
  descriptor : Descriptor
  deriving DecidableEq, Repr

/-- What came of an answer, and the descriptors that were closed. -/
structure Handoff where
  /-- The terminal, or why there is none. -/
  result : Except Failure Master
  /-- The descriptors that the client closed. -/
  closed : List Descriptor

/-- The longest path that the service sends. -/
def maxPath : Nat := 16

/-- How many descriptors can be received at once. -/
def slots : Nat := 4

/-- The terminal of an answer, or the first check that it fails. -/
def check (a : Answer) : Except TransportCause Master :=
  if a.controlTruncated then .error .truncated
  else if a.truncated || maxPath < a.payload.length then .error (.tooLong maxPath)
  else if a.messages.length != 1 then .error (.messageCount a.messages.length)
  else match a.descriptors with
    | [descriptor] =>
      if !isUtf8 a.payload then .error .notUtf8
      else match trimEndNul a.payload with
        | [] => .error .emptyPath
        | path => .ok ⟨path, descriptor⟩
    | ds => .error (.descriptorCount ds.length)

/-- Checks an answer, and closes its descriptors unless it hands one of them on. -/
def validate (a : Answer) : Handoff :=
  match check a with
  | .ok master => ⟨.ok master, []⟩
  | .error cause => ⟨.error (.transport cause), a.descriptors⟩

/-! ### From a reply to a handoff -/

/-- A reply, as the service sent it and the system marks it. -/
structure Reply where
  /-- The bytes. -/
  payload : Bytes
  /-- Whether bytes did not fit. -/
  truncated : Bool
  /-- Whether control data other than descriptors did not fit. -/
  controlCut : Bool
  /-- The control messages. -/
  messages : List ControlMessage
  deriving DecidableEq, Repr

namespace Reply

/-- The descriptors that the service put into a reply. -/
def sent (r : Reply) : List Descriptor := r.messages.flatMap ControlMessage.descriptors

/-- The descriptors that the system installs for a reply. -/
def installed (r : Reply) : List Descriptor := r.sent.take slots

/-- Whether the system marks a reply because some of its control data did not fit. -/
def isMarked (r : Reply) : Bool := r.controlCut || slots < r.sent.length

/-- The answer that a client reads. -/
def answer (r : Reply) : Answer := ⟨r.payload, r.isMarked, r.truncated, r.messages⟩

/-- What a client makes of a reply.  A marked one is refused before anyone owns the descriptors that
were installed for it. -/
def handoff (r : Reply) : Handoff :=
  if r.isMarked then ⟨.error (.transport (.malformed .noBuffers)), []⟩ else validate r.answer

end Reply

/-- What an attempt to receive comes to. -/
inductive Attempt where
  /-- It failed. -/
  | failed (errno : Errno)
  /-- A reply arrived. -/
  | arrived (reply : Reply)
  deriving DecidableEq, Repr

/-- Receives one reply.  An attempt that a signal interrupted is made again; behind the last one
nothing arrives in time. -/
def receive : List Attempt → Handoff
  | [] => ⟨.error (.transport .timedOut), []⟩
  | .arrived reply :: _ => reply.handoff
  | .failed errno :: rest =>
    if errno = .interrupted then receive rest
    else if errno = .wouldBlock then ⟨.error (.transport .timedOut), []⟩
    else ⟨.error (.transport (.receive errno)), []⟩

end ContainerEntry.Pty
