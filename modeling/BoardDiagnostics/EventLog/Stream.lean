import BoardDiagnostics.Event
import BoardDiagnostics.Queue

/-!
# The stream of events

Every event goes out to all receivers.  The stream keeps the latest events in a ring; a receiver
that has fallen behind the ring is told once how many events it has missed and goes on with the
oldest one that is kept.
-/

set_option autoImplicit false

namespace BoardDiagnostics

/-- The events on their way to receivers. -/
structure Stream where
  /-- How many events the ring holds. -/
  ring : Nat
  /-- The events in the ring. -/
  kept : Queue Event
  /-- How many events were sent: a count without an end, while a machine keeps it in 64 bits that
  wrap. -/
  sent : Nat

/-- The least power of two that is not below a number. -/
def powerOfTwoAbove (n : Nat) : Nat :=
  if n ≤ 1 then 1 else 1 <<< (Nat.log2 (n - 1) + 1)

/-- A receiver, known by the number of the event that it waits for. -/
structure Receiver where
  next : Nat
  deriving DecidableEq, Repr

/-- What a receiver gets when it asks for the next event. -/
inductive Received where
  | event (event : Event)
  /-- So many events were missed. -/
  | lagged (count : Nat)
  /-- There is no event yet. -/
  | empty
  /-- There will be no more events. -/
  | closed
  deriving DecidableEq, Repr

namespace Stream

/-- A stream whose ring holds the least power of two that a buffer size fits in. -/
def ofBuffer (buffer : Nat) : Stream := ⟨powerOfTwoAbove (max buffer 1), .empty, 0⟩

/-- Send an event. -/
def push (stream : Stream) (event : Event) : Stream :=
  { stream with
    kept := (if stream.kept.size < stream.ring then stream.kept
      else stream.kept.dropOldest).push event
    sent := stream.sent + 1 }

/-- A receiver of the events to come. -/
def subscribe (stream : Stream) : Receiver := ⟨stream.sent⟩

/-- The number of the oldest event that is kept. -/
def oldest (stream : Stream) : Nat := stream.sent - stream.kept.size

/-- Ask for the next event of a receiver, of a stream that is open or not. -/
def receive (stream : Stream) (isOpen : Bool) (receiver : Receiver) : Received × Receiver :=
  if receiver.next < stream.oldest then
    (.lagged (stream.oldest - receiver.next), ⟨stream.oldest⟩)
  else
    match stream.kept.get? (receiver.next - stream.oldest) with
    | some event => (.event event, ⟨receiver.next + 1⟩)
    | none => (if isOpen then .empty else .closed, receiver)

end Stream

end BoardDiagnostics
