import BoardDiagnostics.Board.Basic
import BoardDiagnostics.Event

/-!
# Transcripts

All that a run lets be seen, in order: lines on the console, calls to the board, and events.
-/

set_option autoImplicit false

namespace BoardDiagnostics

/-- An entry of a transcript. -/
inductive Entry where
  | note (note : Note)
  | event (event : Event)

namespace Entry

/-- An entry for a line. -/
def line (line : Line) : Entry := note (.line line)

/-- An entry for a call. -/
def call (call : Call) : Entry := note (.call call)

/-- The event of an entry, if it is one. -/
def event? : Entry → Option Event
  | event e => some e
  | note _ => none

/-- The call of an entry, if it is one. -/
def call? : Entry → Option Call
  | note (.call c) => some c
  | _ => none

/-- The line of an entry, if it is one. -/
def line? : Entry → Option Line
  | note (.line l) => some l
  | _ => none

end Entry

/-- A transcript. -/
abbrev Transcript := List Entry

namespace Transcript

/-- The events of a transcript. -/
def events (transcript : Transcript) : List Event := transcript.filterMap Entry.event?

/-- The calls of a transcript. -/
def calls (transcript : Transcript) : List Call := transcript.filterMap Entry.call?

/-- The lines of a transcript. -/
def lines (transcript : Transcript) : List Line := transcript.filterMap Entry.line?

end Transcript

end BoardDiagnostics
