import BoardDiagnostics.Transcript

/-!
# Reading transcripts

The events and the calls of a transcript are read entry by entry: lines show up in neither, and
what is noted off the event log shows up in the calls alone.
-/

set_option autoImplicit false

namespace BoardDiagnostics.Transcript

/-- An empty transcript has no event. -/
@[simp] theorem events_nil : events [] = [] := rfl

/-- The events of a transcript stand in its order. -/
@[simp] theorem events_append (first more : Transcript) :
    events (first ++ more) = events first ++ events more := List.filterMap_append

/-- A published event is one of the events. -/
@[simp] theorem events_cons_event (event : Event) (more : Transcript) :
    events (.event event :: more) = event :: events more := rfl

/-- A note is no event. -/
@[simp] theorem events_cons_note (note : Note) (more : Transcript) :
    events (.note note :: more) = events more := rfl

/-- A printed line is no event. -/
@[simp] theorem events_cons_line (line : Line) (more : Transcript) :
    events (.line line :: more) = events more := rfl

/-- A call is no event. -/
@[simp] theorem events_cons_call (call : Call) (more : Transcript) :
    events (.call call :: more) = events more := rfl

/-- Notes are no events. -/
@[simp] theorem events_map_note (notes : List Note) : events (notes.map Entry.note) = [] := by
  induction notes with
  | nil => rfl
  | cons note notes ih => rw [List.map_cons, events_cons_note, ih]

/-- Lines are no events. -/
@[simp] theorem events_map_line (lines : List Line) : events (lines.map Entry.line) = [] := by
  induction lines with
  | nil => rfl
  | cons line lines ih => rw [List.map_cons, events_cons_line, ih]

/-- An empty transcript has no call. -/
@[simp] theorem calls_nil : calls [] = [] := rfl

/-- The calls of a transcript stand in its order. -/
@[simp] theorem calls_append (first more : Transcript) :
    calls (first ++ more) = calls first ++ calls more := List.filterMap_append

/-- A published event is no call. -/
@[simp] theorem calls_cons_event (event : Event) (more : Transcript) :
    calls (.event event :: more) = calls more := rfl

/-- A printed line is no call. -/
@[simp] theorem calls_cons_line (line : Line) (more : Transcript) :
    calls (.line line :: more) = calls more := rfl

/-- A call of the board is one of the calls. -/
@[simp] theorem calls_cons_call (call : Call) (more : Transcript) :
    calls (.call call :: more) = call :: calls more := rfl

/-- Lines are no calls. -/
@[simp] theorem calls_map_line (lines : List Line) : calls (lines.map Entry.line) = [] := by
  induction lines with
  | nil => rfl
  | cons line lines ih => rw [List.map_cons, calls_cons_line, ih]

end BoardDiagnostics.Transcript
