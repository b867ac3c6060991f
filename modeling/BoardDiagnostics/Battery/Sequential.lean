import BoardDiagnostics.Allocation.Stress
import BoardDiagnostics.Battery.Conditions

/-!
# The sequential phase

The allocation stress, and then, on physical hardware, the configured storage media one after
another.  A step that fails is reported and the phase goes on; a step that breaks off ends it.
-/

set_option autoImplicit false

namespace BoardDiagnostics

variable {σ : Type}

/-- The fault of a step that broke off. -/
def brokenOff (step : String) (panic : Panic) : Fault := .stepAborted step panic.message

/-- The entries about a completed run of the allocation stress. -/
def runEntries (spec : AllocationSpec) (times : Nat → Duration) (run : Nat) : Transcript :=
  [.line (.info (spec.runText run (times run))), .event (.allocationCycle run (times run))]

/-- The entries with which the allocation stress begins. -/
def stressBegin (spec : AllocationSpec) : Transcript :=
  [.line (.info (Console.sectionHeader "memory allocation")),
    .line (.info (toString spec.runs ++ " runs of " ++ toString spec.chunkCount ++
      " chunks x " ++ toString spec.chunkSize ++ " bytes")),
    .event (.allocationStarted spec.runs spec.chunkCount spec.chunkSize)]

/-- The entries with which the allocation stress ends. -/
def stressEnd (cycles : Nat) (elapsed : Duration) : Transcript :=
  [.line (.info ("memory allocation completed " ++ toString cycles ++ " runs (" ++
      elapsed.text ++ ")")),
    .event (.allocationFinished cycles elapsed)]

/-- Run the allocation stress of a specification. -/
def runStress (spec : AllocationSpec) (conditions : Conditions) : Diagnosis σ Unit := do
  Activity.noteAll (stressBegin spec)
  let (completed, finish) := spec.stress conditions.memory
  Activity.noteAll (completed.flatMap (runEntries spec conditions.runTime))
  match finish with
  | .error panic => Activity.fail (brokenOff "alloc" panic)
  | .ok (.error reasons) =>
    Diagnosis.say (.warn ("memory allocation check failed: " ++ reasons.text))
    Activity.noteAll (stressEnd completed.length conditions.stressTime)
  | .ok (.ok ()) => Activity.noteAll (stressEnd completed.length conditions.stressTime)

/-- Run the allocation step. -/
def runAllocation (config : AllocationConfig) (conditions : Conditions) : Diagnosis σ Unit :=
  runStress (AllocationSpec.ofConfig config conditions.entropy) conditions

/-- Test a storage medium. -/
def runMedia (board : Board σ) (occasion : Occasion) (target : MediaTarget)
    (elapsed : Duration) : Diagnosis σ Unit := do
  Diagnosis.say (.info (Console.sectionHeader ("media " ++ target.identifier)))
  match ← Diagnosis.onBoard (board.readMedia target) with
  | .error panic => Activity.fail (brokenOff ("media " ++ target.identifier) panic)
  | .ok (.ok ()) =>
    Diagnosis.say (.info (target.identifier ++ " completed (" ++ elapsed.text ++ ")"))
    Diagnosis.publish (.mediaTested target.identifier target.readChunk occasion true)
  | .ok (.error fault) =>
    Diagnosis.say (.ofFault fault "media check")
    Diagnosis.publish (.mediaTested target.identifier target.readChunk occasion false)

/-- Test storage media in order, the first of them under a number. -/
def runMediaFrom (board : Board σ) (occasion : Occasion) (conditions : Conditions) :
    Nat → List MediaTarget → Diagnosis σ Unit
  | _, [] => pure ()
  | number, target :: rest => do
    Diagnosis.pause (conditions.pauses (number + 1))
    runMedia board occasion target (conditions.mediaTime number)
    runMediaFrom board occasion conditions (number + 1) rest

/-- Run the sequential phase. -/
def runSequential (caps : Capabilities) (config : Config) (board : Board σ)
    (occasion : Occasion) (conditions : Conditions) : Diagnosis σ Unit := do
  Diagnosis.pause (conditions.pauses 0)
  runAllocation config.allocation conditions
  if caps.runsMediaChecks then
    runMediaFrom board occasion conditions 0 (config.media.targetsFor occasion)
  else Diagnosis.say (.info "skipping media checks on emulated hardware")

end BoardDiagnostics
