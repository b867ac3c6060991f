import BoardDiagnostics.Duration
import BoardDiagnostics.Panic
import BoardDiagnostics.Checks.Result

/-!
# Completion signals

How a concurrent unit ended, and the one signal with which it says so.
-/

set_option autoImplicit false

namespace BoardDiagnostics

/-- How a unit ended. -/
inductive Outcome where
  | passed
  /-- The check failed; the unit said so and carried on. -/
  | failed (reason : String)
  /-- The check broke off, which is fatal to the whole process. -/
  | aborted (reason : String)
  deriving DecidableEq, Repr

namespace Outcome

/-- The outcome of a check that ended in a result or broke off. -/
def ofReply : Reply CheckResult → Outcome
  | .ok (.ok ()) => passed
  | .ok (.error reasons) => failed reasons.text
  | .error panic => aborted panic.message

end Outcome

/-- The signal of a unit that has ended. -/
structure Signal where
  name : String
  elapsed : Duration
  outcome : Outcome
  deriving DecidableEq, Repr

end BoardDiagnostics
