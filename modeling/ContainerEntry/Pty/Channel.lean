import ContainerEntry.Pty.Handoff

/-!
# The connection to the terminal service

What the service sends queues up in order.  A receive takes one byte more than a path may have, so
that a longer one is noticed, and goes on from one send into the next until it has taken from a send
that carries descriptors.  What is left of a send stays in the queue, without its descriptors.
-/

namespace ContainerEntry.Pty

/-- Bytes that were sent with descriptors. -/
structure Parcel where
  /-- The bytes. -/
  bytes : Bytes
  /-- The descriptors. -/
  descriptors : List Descriptor
  deriving DecidableEq, Repr

/-- What a client takes from the queue at once. -/
structure Delivery where
  /-- The bytes. -/
  payload : Bytes
  /-- The descriptors that were sent with them. -/
  sent : List Descriptor
  deriving DecidableEq, Repr

/-- The reply that a delivery is: all its descriptors are in one control message. -/
def Delivery.reply (d : Delivery) : Reply :=
  ⟨d.payload, false, false, if d.sent.isEmpty then [] else [.rights d.sent]⟩

/-- Takes at most so many bytes from a queue. -/
def takeParcels : (room : Nat) → List Parcel → Delivery × List Parcel
  | _, [] => (⟨[], []⟩, [])
  | 0, queue => (⟨[], []⟩, queue)
  | room, parcel :: rest =>
    let taken := parcel.bytes.take room
    match parcel.bytes.drop room, parcel.descriptors with
    | [], [] =>
      let (more, queue) := takeParcels (room - taken.length) rest
      (⟨taken ++ more.payload, more.sent⟩, queue)
    | [], ds => (⟨taken, ds⟩, rest)
    | left, ds => (⟨taken, ds⟩, ⟨left, []⟩ :: rest)

/-- A connection to the service. -/
structure Channel where
  /-- What has been sent and not yet received. -/
  queue : List Parcel
  /-- Whether the service has closed its end. -/
  isClosed : Bool
  deriving Repr

namespace Channel

/-- A connection on which nothing was sent. -/
def fresh : Channel := ⟨[], false⟩

/-- The service sends bytes with descriptors; without bytes nothing is sent. -/
def send (c : Channel) (bytes : Bytes) (descriptors : List Descriptor) : Channel :=
  if bytes.isEmpty then c else { c with queue := c.queue ++ [⟨bytes, descriptors⟩] }

/-- The service closes its end. -/
def close (c : Channel) : Channel := { c with isClosed := true }

/-- The client receives one answer. -/
def receive (c : Channel) : Handoff × Channel :=
  if c.queue.isEmpty && !c.isClosed then (Pty.receive [.failed .wouldBlock], c)
  else
    let (delivery, queue) := takeParcels (maxPath + 1) c.queue
    (Pty.receive [.arrived delivery.reply], { c with queue := queue })

/-- The descriptors that the system installs at the next receive. -/
def nextInstalled (c : Channel) : List Descriptor :=
  (takeParcels (maxPath + 1) c.queue).1.reply.installed

end Channel

end ContainerEntry.Pty
