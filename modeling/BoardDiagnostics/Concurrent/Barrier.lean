import BoardDiagnostics.Concurrent.Signal
import BoardDiagnostics.Fault
import BoardDiagnostics.Queue

/-!
# The completion barrier

A barrier counts the signals of concurrent units.  It hands out one signaller to each unit; a
signaller is used up by its signal.  Signals wait in a queue with room for as many as are
expected, and what finds the queue full is lost.  From the first time that the barrier is asked
for a signal it hands out no more signallers, so that it can tell when none is left to wait for.
-/

set_option autoImplicit false

namespace BoardDiagnostics

/-- A barrier over completion signals. -/
structure Barrier where
  /-- How many signals release the barrier. -/
  expected : Nat
  /-- How many signals the barrier has delivered. -/
  received : Nat
  /-- Signallers are still handed out. -/
  isOffering : Bool
  /-- How many signallers were handed out. -/
  issued : Nat
  /-- The signallers that are neither used nor dropped, by number. -/
  live : List Nat
  /-- The signals that wait. -/
  queue : Queue Signal

/-- What a barrier answers when it is asked for a signal. -/
inductive Poll where
  /-- All expected signals have been delivered. -/
  | released
  | signal (signal : Signal)
  /-- No signaller is left, and not all signals have arrived. -/
  | lost (fault : Fault)
  /-- There is no signal yet. -/
  | pending
  deriving DecidableEq, Repr

namespace Barrier

/-- The greatest queue. -/
def greatestCapacity : Nat := 0x1fffffffffffffff

/-- A barrier for so many signals. -/
def ofExpected (expected : Nat) : Barrier := ⟨expected, 0, true, 0, [], .empty⟩

/-- Make a barrier, unless it would need too large a queue. -/
def create (expected : Nat) : Reply Barrier :=
  if greatestCapacity < max expected 1 then
    .error (.text ("a semaphore may not have more than MAX_PERMITS permits (" ++
      toString greatestCapacity ++ ")"))
  else .ok (ofExpected expected)

/-- How many signals can wait. -/
def capacity (barrier : Barrier) : Nat := max barrier.expected 1

/-- Hand out a signaller, if signallers are still handed out. -/
def issue (barrier : Barrier) : Option Nat × Barrier :=
  if barrier.isOffering then
    (some barrier.issued,
      { barrier with issued := barrier.issued + 1, live := barrier.live ++ [barrier.issued] })
  else (none, barrier)

/-- Let a signal wait, if there is room. -/
def enqueue (barrier : Barrier) (signal : Signal) : Barrier :=
  if barrier.queue.size < barrier.capacity then
    { barrier with queue := barrier.queue.push signal }
  else barrier

/-- Drop a signaller. -/
def drop (barrier : Barrier) (signaller : Nat) : Barrier :=
  { barrier with live := barrier.live.erase signaller }

/-- Send a signal with a signaller, which is used up; a signaller that is not live sends
nothing. -/
def send (barrier : Barrier) (signaller : Nat) (signal : Signal) : Barrier :=
  if signaller ∈ barrier.live then (barrier.enqueue signal).drop signaller else barrier

/-- Ask for a signal. -/
def poll (barrier : Barrier) : Poll × Barrier :=
  let closing := { barrier with isOffering := false }
  if barrier.received = barrier.expected then (.released, closing)
  else
    match barrier.queue.oldest? with
    | some signal =>
      (.signal signal,
        { closing with received := barrier.received + 1, queue := barrier.queue.dropOldest })
    | none =>
      if barrier.live.isEmpty then
        (.lost (.signalLost barrier.expected barrier.received), closing)
      else (.pending, closing)

end Barrier

/-- A use of a barrier. -/
inductive BarrierUse where
  /-- Ask for a signaller. -/
  | issue
  /-- Send a signal with a signaller. -/
  | send (signaller : Nat) (signal : Signal)
  /-- Drop a signaller. -/
  | drop (signaller : Nat)
  /-- Ask for a signal. -/
  | poll
  deriving DecidableEq, Repr

/-- The answer to a use of a barrier. -/
inductive BarrierAnswer where
  /-- The number of a signaller, if signallers are still handed out. -/
  | issued (signaller : Option Nat)
  /-- The signal went out, which does not say that it was taken in. -/
  | sent
  /-- The signaller had been used or dropped before. -/
  | usedUp
  | dropped
  | polled (poll : Poll)
  deriving DecidableEq, Repr

namespace Barrier

/-- Use a barrier. -/
def step (barrier : Barrier) : BarrierUse → BarrierAnswer × Barrier
  | .issue =>
    let (signaller, barrier) := barrier.issue
    (.issued signaller, barrier)
  | .send signaller signal =>
    (if signaller ∈ barrier.live then .sent else .usedUp, barrier.send signaller signal)
  | .drop signaller => (.dropped, barrier.drop signaller)
  | .poll =>
    let (poll, barrier) := barrier.poll
    (.polled poll, barrier)

/-- Use a barrier again and again; each answer comes with the barrier after it. -/
def run (barrier : Barrier) : List BarrierUse → List (BarrierAnswer × Barrier)
  | [] => []
  | use :: uses => barrier.step use :: run (barrier.step use).2 uses

end Barrier

end BoardDiagnostics
