import BoardDiagnostics.Event
import BoardDiagnostics.Queue

/-!
# The history of events

The latest events up to a capacity, with counts of all events and of those that were dropped.  A
full history drops its oldest event for each new one.  Being full means holding exactly as many
events as the capacity says, so a history of capacity zero, which holds none, counts as full
once and never again.
-/

set_option autoImplicit false

namespace BoardDiagnostics

/-- The latest events. -/
structure History where
  capacity : Nat
  /-- The events that are kept. -/
  kept : Queue Event
  /-- How many events there were: a count without an end, while a machine keeps it in 64 bits that
  wrap. -/
  total : Nat
  /-- How many events were dropped, counted likewise. -/
  dropped : Nat

/-- What a history shows. -/
structure Snapshot where
  /-- The events that are kept, oldest first. -/
  recent : List Event
  /-- How many events there were, as the history counts them. -/
  total : Nat
  /-- How many events were dropped, as the history counts them. -/
  dropped : Nat
  deriving DecidableEq, Repr

namespace History

/-- A history without events. -/
def ofCapacity (capacity : Nat) : History := ⟨capacity, .empty, 0, 0⟩

/-- The events that are kept, oldest first. -/
def recent (history : History) : List Event := history.kept.toList

/-- What a history shows. -/
def snapshot (history : History) : Snapshot := ⟨history.recent, history.total, history.dropped⟩

/-- Add an event. -/
def push (history : History) (event : Event) : History :=
  if history.kept.size = history.capacity then
    { history with
      kept := history.kept.dropOldest.push event
      total := history.total + 1
      dropped := history.dropped + 1 }
  else
    { history with kept := history.kept.push event, total := history.total + 1 }

/-- A new event comes last; in front of it, a history that is full loses its oldest event. -/
theorem recent_push (history : History) (event : Event) :
    (history.push event).recent =
      (if history.recent.length = history.capacity then history.recent.drop 1
        else history.recent) ++ [event] := by
  unfold push recent
  rw [Queue.length_toList]
  split <;> simp

end History

end BoardDiagnostics
