import BoardDiagnostics.Battery.Registry
import BoardDiagnostics.Concurrent.Phase
import BoardDiagnostics.Memory
import BoardDiagnostics.Random.Uniform

/-!
# Conditions of a battery

Everything that a battery of diagnostics does not decide itself and does not ask the board for:
how the checks of the host go, who goes on when, what is random, what memory there is, and how
long everything takes.
-/

set_option autoImplicit false

namespace BoardDiagnostics

/-- The conditions under which a battery runs. -/
structure Conditions where
  /-- How the checks go that do not need the board. -/
  hostChecks : HostCheck → CheckRun
  /-- Who goes on in the concurrent phase, step by step. -/
  schedule : List Pick
  /-- Which strays go on at each pause of the sequential phase. -/
  pauses : Nat → List Nat
  /-- The random words of the machine. -/
  entropy : Uniform.Supply
  memory : Memory
  phaseTimes : PhaseTimes
  /-- How long each run of the allocation stress takes. -/
  runTime : Nat → Duration
  /-- How long the allocation stress takes. -/
  stressTime : Duration
  /-- How long each test of a storage medium takes. -/
  mediaTime : Nat → Duration

end BoardDiagnostics
