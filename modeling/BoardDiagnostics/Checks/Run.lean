import BoardDiagnostics.Board.Basic
import BoardDiagnostics.Checks.Result

/-!
# Runs of checks

How a check went that does not need the board: the lines that it wrote, and its result unless it
broke off.  An attempt at a check may also end with its process.
-/

set_option autoImplicit false

namespace BoardDiagnostics

/-- How a check went. -/
structure CheckRun where
  lines : List Line
  reply : Reply CheckResult

namespace CheckRun

/-- A check that wrote some lines and then passed or failed. -/
def ended (lines : List Line) (result : CheckResult) : CheckRun := ⟨lines, .ok result⟩

/-- A check that wrote some lines and then failed for one reason. -/
def failed (lines : List Line) (reason : String) : CheckRun := ended lines (.error (.of reason))

/-- The same run as work on a board, which it leaves alone. -/
def work {σ : Type} (run : CheckRun) : Work σ CheckResult := fun s =>
  ⟨run.reply, s, run.lines.map .line⟩

end CheckRun

/-- How an attempt at a check went. -/
structure CheckAttempt where
  lines : List Line
  ending : Ending CheckResult

/-- How a check went whose process is still there. -/
def CheckAttempt.run (attempt : CheckAttempt) (alive : attempt.ending ≠ .error .abort) : CheckRun :=
  ⟨attempt.lines, Ending.reply attempt.ending alive⟩

end BoardDiagnostics
