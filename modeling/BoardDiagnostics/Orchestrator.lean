import BoardDiagnostics.Banner
import BoardDiagnostics.Battery.Basic
import BoardDiagnostics.Capability.Probe
import BoardDiagnostics.EventLog.Basic

/-!
# The orchestrator

A run from beginning to end: the probe, the battery, and either the end or the device-mode
service.  In device mode the board has the word; it may have the battery run again, and whatever
it makes of the results, the run ends when the service does.
-/

set_option autoImplicit false

namespace BoardDiagnostics

/-- How a run ended that did not fail. -/
inductive Terminal where
  | complete (elapsed : Duration)
  /-- The device-mode service came to an end. -/
  | deviceMode
  deriving DecidableEq, Repr

/-- What surrounds a run. -/
structure Surroundings where
  /-- The conditions of each battery: of the first one, and of those that device mode asks for. -/
  battery : Nat → Conditions
  /-- The number of the task that probes the board. -/
  probeTask : Nat
  /-- How long the run takes. -/
  elapsed : Duration

/-- A run under way. -/
structure RunState (σ : Type) where
  stage : Stage
  world : World σ

/-- An activity of a run under way. -/
abbrev Conduct (σ : Type) := Activity Entry (RunState σ) Fault

namespace Conduct

variable {σ α : Type}

/-- Do something in the world of a run. -/
def inWorld (diagnosis : Diagnosis σ α) : Conduct σ α :=
  diagnosis.within RunState.world fun world state => { state with world := world }

/-- Write a line. -/
def say (line : Line) : Conduct σ Unit := Activity.note (.line line)

/-- Publish an event. -/
def publish (event : Event) : Conduct σ Unit := Activity.note (.event event)

/-- The line about a change of stage. -/
def stageLine (stage next : Stage) : Line :=
  .debug ("state " ++ stage.name ++ " -> " ++ next.name)

/-- Enter a stage, which has to be one that may follow.  Nothing is checked here, as the stages of a
run always are (`Orchestrator.isChain_stages_of_runs`). -/
def enter (next : Stage) : Conduct σ Unit := fun state =>
  ⟨.ok (), { state with stage := next },
    [.line (stageLine state.stage next), .event (.stageChanged next)]⟩

end Conduct

/-- Run the battery again at the wish of the device-mode service. -/
def rerunBattery {σ : Type} (caps : Capabilities) (config : Config) (board : Board σ)
    (conditions : Conditions) : Diagnosis σ Unit := do
  Diagnosis.say (.info "re-running diagnostics from device mode")
  runBattery caps config board .rerun conditions

/-- Follow a device-mode session to its end; the batteries that it asks for are numbered on. -/
def Session.follow {σ : Type} (diagnose : Nat → Diagnosis σ Unit) :
    Session σ → Nat → List (Task σ) → Course Entry (World σ) Fault (Reply (Except Fault Unit))
  | .ended reply board, _, strays => ⟨.ok reply, ⟨board, strays⟩, [.call (.serveEnded reply)]⟩
  | .rerun board resume, number, strays =>
    let course := diagnose number ⟨board, strays⟩
    let rest := follow diagnose (resume course.result course.state.board) (number + 1)
      course.state.strays
    ⟨rest.result, rest.state, course.notes ++ .call (.rerunEnded course.result) :: rest.notes⟩

/-- Hand the board over to its device-mode service. -/
def serveDeviceMode {σ : Type} (caps : Capabilities) (board : Board σ)
    (diagnose : Nat → Diagnosis σ Unit) : Diagnosis σ (Reply (Except Fault Unit)) := fun world =>
  let course := (board.serve caps world.board).follow diagnose 1 world.strays
  ⟨course.result, course.state, .call (.serveBegun caps) :: course.notes⟩

/-- What the end of the device-mode service means for the run. -/
def serviceEnd : Reply (Except Fault Unit) → Except Fault Terminal
  | .ok (.ok ()) => .ok .deviceMode
  | .ok (.error fault) =>
    .error (if fault.isFatal then fault else .deviceMode fault.fullText)
  | .error panic => .error (.deviceMode panic.message)

/-- An orchestrator with all that it keeps. -/
structure Orchestrator (σ : Type) where
  config : Config
  build : Build
  log : EventLog
  state : RunState σ

namespace Orchestrator

variable {σ : Type}

/-- An orchestrator for a board in some state, unless its configuration cannot be used. -/
def create (config : Config) (build : Build) (board : σ) : Except Fault (Orchestrator σ) :=
  match config.validate with
  | .error fault => .error fault
  | .ok () => .ok ⟨config, build, .standard, ⟨.probing, .ofBoard board⟩⟩

/-- The stage at which an orchestrator stands. -/
def stage (orchestrator : Orchestrator σ) : Stage := orchestrator.state.stage

/-- The fault of a probe that broke off. -/
def probeFault (task : Nat) (panic : Panic) : Fault := .stepAborted "probe" (panic.taskReport task)

/-- Probe the board. -/
def probeBoard (board : Board σ) (config : Config) (task : Nat) : Conduct σ Capabilities := do
  match ← Conduct.inWorld (Diagnosis.onBoard (Capabilities.probe board config)) with
  | .error panic => Activity.fail (probeFault task panic)
  | .ok caps => pure caps

/-- The end of a run in device mode. -/
def enterDeviceMode (board : Board σ) (config : Config) (surroundings : Surroundings)
    (caps : Capabilities) : Conduct σ Terminal := do
  Conduct.say (.info "entering USB device mode")
  Conduct.publish .deviceModeEntered
  let reply ← Conduct.inWorld (serveDeviceMode caps board fun number =>
    rerunBattery caps config board (surroundings.battery number))
  Activity.ofExcept (serviceEnd reply)

/-- The end of a run without device mode. -/
def finish (surroundings : Surroundings) : Conduct σ Terminal := do
  Conduct.enter .idle
  Conduct.say (.info ("Goodbye from bringup_harness (" ++ surroundings.elapsed.text ++ ")"))
  Conduct.publish (.goodbye surroundings.elapsed)
  pure (.complete surroundings.elapsed)

/-- One run, from the probe on. -/
def conduct (board : Board σ) (config : Config) (build : Build) (surroundings : Surroundings) :
    Conduct σ Terminal := do
  Conduct.publish (.stageChanged .probing)
  let caps ← probeBoard board config surroundings.probeTask
  Conduct.say (.info (build.banner caps))
  Conduct.enter .concurrentPhase
  let _ ← Conduct.inWorld (runRegistered caps board (surroundings.battery 0))
  Conduct.enter .sequentialPhase
  Conduct.inWorld (runSequential caps config board .startup (surroundings.battery 0))
  if caps.supportsDeviceMode then
    Conduct.enter .deviceModeService
    enterDeviceMode board config surroundings caps
  else finish surroundings

/-- The fault of a second run. -/
def alreadyRan (stage : Stage) : Fault :=
  .stepAborted "run" ("orchestrator already ran (state " ++ stage.name ++ ")")

/-- Run an orchestrator, which is possible as long as it stands before its first stage. -/
def run (board : Board σ) (surroundings : Surroundings) :
    Activity Entry (Orchestrator σ) Fault Terminal := fun orchestrator =>
  if orchestrator.stage ≠ .probing then
    ⟨.error (alreadyRan orchestrator.stage), orchestrator, []⟩
  else
    let course := conduct board orchestrator.config orchestrator.build surroundings
      orchestrator.state
    ⟨course.result,
      { orchestrator with
        log := orchestrator.log.publishAll (Transcript.events course.notes)
        state := course.state },
      course.notes⟩

end Orchestrator

end BoardDiagnostics
