import BoardDiagnostics.Concurrent.Signal
import BoardDiagnostics.Media.Target
import BoardDiagnostics.Stage

/-!
# Events

The observable steps of a run.
-/

set_option autoImplicit false

namespace BoardDiagnostics

/-- An observable step of a run. -/
inductive Event where
  /-- The run has entered a stage. -/
  | stageChanged (stage : Stage)
  /-- A concurrent unit was launched. -/
  | unitLaunched (name : String)
  /-- The signal of a concurrent unit has arrived. -/
  | unitCompleted (name : String) (elapsed : Duration) (outcome : Outcome)
  /-- All units of a concurrent phase have signalled. -/
  | concurrentReleased (units : Nat) (elapsed : Duration)
  /-- The allocation stress begins. -/
  | allocationStarted (runs chunkCount chunkSize : Nat)
  /-- A cycle of filling and freeing is complete. -/
  | allocationCycle (run : Nat) (elapsed : Duration)
  /-- The allocation stress has ended after so many cycles. -/
  | allocationFinished (cycles : Nat) (elapsed : Duration)
  /-- A storage medium was tested. -/
  | mediaTested (target : String) (readChunk : Nat) (occasion : Occasion) (passed : Bool)
  /-- The device-mode service is about to be entered. -/
  | deviceModeEntered
  /-- The run is complete. -/
  | goodbye (elapsed : Duration)
  deriving DecidableEq, Repr

end BoardDiagnostics
