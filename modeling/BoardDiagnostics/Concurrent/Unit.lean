import BoardDiagnostics.Board.Basic
import BoardDiagnostics.Checks.Result

/-!
# Concurrent units

A diagnostic check with a name, as one of the units of a concurrent phase.  Its body works on
the board and passes, fails or breaks off.
-/

set_option autoImplicit false

namespace BoardDiagnostics

/-- Where the body of a unit runs. -/
inductive Placement where
  /-- On a thread of its own, which it may block. -/
  | blocking
  /-- As a task among others. -/
  | async
  deriving DecidableEq, Repr

/-- A concurrent unit on a board whose states are of type `σ`. -/
structure CheckUnit (σ : Type) where
  name : String
  title : String
  placement : Placement
  body : Work σ CheckResult

end BoardDiagnostics
