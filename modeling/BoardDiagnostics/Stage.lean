/-!
# Stages of a run

A run is probed, goes through the concurrent and the sequential phase, and comes to rest either
idle or in the hands of the device-mode service.
-/

set_option autoImplicit false

namespace BoardDiagnostics

/-- A stage of a run. -/
inductive Stage where
  | probing
  | concurrentPhase
  | sequentialPhase
  /-- The run is complete. -/
  | idle
  /-- The device-mode service owns the process. -/
  | deviceModeService
  deriving DecidableEq, Repr

namespace Stage

/-- The name of a stage. -/
def name : Stage → String
  | probing => "Probing"
  | concurrentPhase => "ConcurrentPhase"
  | sequentialPhase => "SequentialPhase"
  | idle => "Idle"
  | deviceModeService => "DeviceModeService"

/-- No stage follows. -/
def isTerminal : Stage → Bool
  | idle | deviceModeService => true
  | probing | concurrentPhase | sequentialPhase => false

/-- The second stage may follow the first. -/
def canPrecede : Stage → Stage → Bool
  | probing, concurrentPhase => true
  | concurrentPhase, sequentialPhase => true
  | sequentialPhase, idle => true
  | sequentialPhase, deviceModeService => true
  | _, _ => false

end Stage

end BoardDiagnostics
