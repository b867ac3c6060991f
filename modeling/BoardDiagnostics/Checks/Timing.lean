import BoardDiagnostics.Checks.Run
import BoardDiagnostics.Duration

/-!
# The timer check and the sleep check

A timer must not fire early, and a sleep must not end early.  How long the wait took is measured
outside.
-/

set_option autoImplicit false

namespace BoardDiagnostics.TimingCheck

/-- Check a timer that was set to a period and fired after a measured time. -/
def timer (period woke : Duration) : CheckRun :=
  let lines := [
    Line.info ("waking up timer after " ++ period.text), Line.info ("woke up after " ++ woke.text)]
  if woke < period then .failed lines ("timer fired early: " ++ woke.text ++ " < " ++ period.text)
  else .ended lines (.ok ())

/-- Check a sleep of a period that ended after a measured time. -/
def sleep (period slept : Duration) : CheckRun :=
  let lines := [
    Line.info ("sleeping " ++ period.text),
    Line.info ("slept " ++ period.text ++ " (" ++ slept.text ++ ")")]
  if slept < period then .failed lines ("woke early: " ++ slept.text ++ " < " ++ period.text)
  else .ended lines (.ok ())

end BoardDiagnostics.TimingCheck
