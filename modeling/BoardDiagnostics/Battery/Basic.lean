import BoardDiagnostics.Battery.Sequential

/-!
# The battery

The whole of the diagnostics: a concurrent phase and then, if that succeeds, a sequential one.
-/

set_option autoImplicit false

namespace BoardDiagnostics

variable {σ : Type}

/-- Run the concurrent phase with the registered units. -/
def runRegistered (caps : Capabilities) (board : Board σ) (conditions : Conditions) :
    Diagnosis σ Nat :=
  runConcurrent (registry caps board conditions.hostChecks) conditions.schedule
    conditions.phaseTimes

/-- Run the battery. -/
def runBattery (caps : Capabilities) (config : Config) (board : Board σ) (occasion : Occasion)
    (conditions : Conditions) : Diagnosis σ Unit := do
  let _ ← runRegistered caps board conditions
  runSequential caps config board occasion conditions

end BoardDiagnostics
