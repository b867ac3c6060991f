import BoardDiagnostics.EventLog.Basic

/-!
# Sharing an event log

A log with the handles and the receivers that have been made for it.  All handles are equal:
what is published through one is seen through all.  When the last handle is gone, the receivers
still get what the stream has kept.
-/

set_option autoImplicit false

namespace BoardDiagnostics

/-- A log that is being used. -/
structure SharedLog where
  log : EventLog
  /-- How many handles were made; none of them is left once the log is closed. -/
  handles : Nat
  isOpen : Bool
  receivers : List Receiver

/-- A use of a log. -/
inductive LogUse where
  | publish (event : Event)
  | clone
  | subscribe
  | snapshot
  /-- Ask for the next event of a receiver. -/
  | receive (receiver : Nat)
  /-- Drop all handles. -/
  | close
  deriving DecidableEq, Repr

/-- The answer to a use of a log. -/
inductive LogAnswer where
  /-- An event was published; the history then keeps so many events, out of so many in all, and
  has dropped so many. -/
  | published (kept total dropped : Nat)
  /-- The number of a new handle. -/
  | handle (number : Nat)
  /-- The number of a new receiver. -/
  | receiver (number : Nat)
  | snapshot (snapshot : Snapshot)
  | received (received : Received)
  | closed
  deriving DecidableEq, Repr

namespace SharedLog

/-- A log with its first handle. -/
def ofLog (log : EventLog) : SharedLog := ⟨log, 1, true, []⟩

/-- Use a log.  A receiver that was never made gets nothing. -/
def step (shared : SharedLog) : LogUse → LogAnswer × SharedLog
  | .publish event =>
    let log := shared.log.publish event
    (.published log.history.kept.size log.history.total log.history.dropped,
      { shared with log := log })
  | .clone => (.handle shared.handles, { shared with handles := shared.handles + 1 })
  | .subscribe =>
    (.receiver shared.receivers.length,
      { shared with receivers := shared.receivers ++ [shared.log.stream.subscribe] })
  | .snapshot => (.snapshot shared.log.history.snapshot, shared)
  | .receive number =>
    match shared.receivers[number]? with
    | none => (.received .closed, shared)
    | some receiver =>
      let (received, receiver) := shared.log.stream.receive shared.isOpen receiver
      (.received received, { shared with receivers := shared.receivers.set number receiver })
  | .close => (.closed, { shared with isOpen := false })

/-- Use a log again and again. -/
def run (shared : SharedLog) : List LogUse → List LogAnswer × SharedLog
  | [] => ([], shared)
  | use :: uses =>
    let (answer, shared) := shared.step use
    let (answers, shared) := run shared uses
    (answer :: answers, shared)

end SharedLog

end BoardDiagnostics
