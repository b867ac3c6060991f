import BoardDiagnostics.EventLog.History
import BoardDiagnostics.EventLog.Stream
import BoardDiagnostics.Memory

/-!
# The event log

A history and a stream that are fed with the same events.  The sizes of both are limited by what
an address space can hold.
-/

set_option autoImplicit false

namespace BoardDiagnostics

/-- The event log of a run. -/
structure EventLog where
  history : History
  stream : Stream

namespace EventLog

/-- The size of an event in memory. -/
def eventSize : Nat := 72

/-- The greatest ring that has a chance to fit in memory, slot by slot. -/
def greatestRing : Nat := 0x100000000000000

/-- An empty log. -/
def ofSizes (buffer capacity : Nat) : EventLog :=
  ⟨.ofCapacity capacity, .ofBuffer buffer⟩

/-- Make an empty log, unless its sizes are beyond all memory. -/
def create (buffer capacity : Nat) : Reply EventLog :=
  if Memory.greatestSize < max buffer 1 then
    .error (.text "broadcast channel capacity exceeded `usize::MAX / 2`")
  else if greatestRing < powerOfTwoAbove (max buffer 1) then .error Memory.capacityOverflow
  else if Memory.greatestSize < capacity * eventSize then .error Memory.capacityOverflow
  else .ok (ofSizes buffer capacity)

/-- The log that a run starts with. -/
def standard : EventLog := ofSizes 256 1024

/-- Publish an event. -/
def publish (log : EventLog) (event : Event) : EventLog :=
  ⟨log.history.push event, log.stream.push event⟩

/-- Publish events in order. -/
def publishAll (log : EventLog) (events : List Event) : EventLog := events.foldl publish log

end EventLog

end BoardDiagnostics
