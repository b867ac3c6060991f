import BoardDiagnostics.Proofs.Run.Probe
import BoardDiagnostics.Proofs.Run.Trace

/-!
# When and how a run fails

A run fails exactly if something in it breaks down: the probe, a concurrent unit, the allocation
step, the test of a medium, or the device-mode service.  Everything else that can go wrong leaves
its mark on the console and in the event log, and every later step takes place.
-/

set_option autoImplicit false

namespace BoardDiagnostics

variable {σ : Type}

/-- What makes a run fail. -/
inductive Breakdown where
  /-- The probe breaks off. -/
  | probe (panic : Panic)
  /-- A concurrent unit breaks off. -/
  | unit (name : String) (panic : Panic)
  /-- The allocation step breaks off. -/
  | allocation (panic : Panic)
  /-- The test of a medium breaks off, after these other media were tested. -/
  | media (before : List MediaTarget) (target : MediaTarget) (panic : Panic)
  /-- The device-mode service ends with a fault. -/
  | service (fault : Fault)
  /-- The device-mode service breaks off. -/
  | servicePanic (panic : Panic)

namespace Breakdown

/-- The fault with which the run fails, given the number of the task that probes the board. -/
def fault (task : Nat) : Breakdown → Fault
  | probe panic => .stepAborted "probe" (panic.taskReport task)
  | unit name panic => .checkAborted name panic.message
  | allocation panic => .stepAborted "alloc" panic.message
  | media _ target panic => .stepAborted ("media " ++ target.identifier) panic.message
  | service fault => if fault.isFatal then fault else .deviceMode fault.fullText
  | servicePanic panic => .deviceMode panic.message

/-- The stage at which the run stands from then on. -/
def stage : Breakdown → Stage
  | probe _ => .probing
  | unit _ _ => .concurrentPhase
  | allocation _ | media _ _ _ => .sequentialPhase
  | service _ | servicePanic _ => .deviceModeService

/-- A breakdown is always fatal. -/
theorem isFatal_fault (task : Nat) (breakdown : Breakdown) :
    (breakdown.fault task).isFatal = true := by
  cases breakdown with
  | probe | unit | allocation | media | servicePanic => rfl
  | service fault =>
    show (if fault.isFatal then fault else .deviceMode fault.fullText).isFatal = true
    split
    · assumption
    · rfl

end Breakdown

section

variable (board : Board σ) (config : Config) (surroundings : Surroundings) (start : σ)

open Orchestrator in
/-- The first run of a board that is in this state at the start breaks down in this way. -/
inductive BreaksDown : Breakdown → Prop where
  | probe {panic : Panic} (broke : ProbeBreaks board config.targetCpuMhz.toNat start panic) :
      BreaksDown (.probe panic)
  | unit {caps : Capabilities} {name : String} {panic : Panic}
      (probed : (probeCourse board config start).result = .ok caps)
      (broke : BreaksFirst (registry caps board (surroundings.battery 0).hostChecks)
        (surroundings.battery 0).schedule (surroundings.battery 0).phaseTimes
        (.ofBoard (probeCourse board config start).state) name panic) :
      BreaksDown (.unit name panic)
  | allocation {caps : Capabilities} {units : Nat} {panic : Panic}
      (probed : (probeCourse board config start).result = .ok caps)
      (released : (concurrentCourse board config surroundings start caps).result = .ok units)
      (broke : (((surroundings.battery 0).allocation config.allocation).stress
        (surroundings.battery 0).memory).2 = .error panic) :
      BreaksDown (.allocation panic)
  | media {caps : Capabilities} {units : Nat} {answer : CheckResult}
      {before : List MediaTarget} {target : MediaTarget} {panic : Panic}
      (probed : (probeCourse board config start).result = .ok caps)
      (released : (concurrentCourse board config surroundings start caps).result = .ok units)
      (stressed : (((surroundings.battery 0).allocation config.allocation).stress
        (surroundings.battery 0).memory).2 = .ok answer)
      (broke : MediaBreaks board
        (concurrentCourse board config surroundings start caps).state.board
        (mediaPlan caps config .startup) before target panic) :
      BreaksDown (.media before target panic)
  | service {caps : Capabilities} {units : Nat} {fault : Fault}
      (probed : (probeCourse board config start).result = .ok caps)
      (released : (concurrentCourse board config surroundings start caps).result = .ok units)
      (finished : (sequentialCourse board config surroundings start caps).result = .ok ())
      (entered : caps.supportsDeviceMode = true)
      (refused : (serviceCourse board config surroundings start caps).result =
        .ok (.ok (.error fault))) :
      BreaksDown (.service fault)
  | servicePanic {caps : Capabilities} {units : Nat} {panic : Panic}
      (probed : (probeCourse board config start).result = .ok caps)
      (released : (concurrentCourse board config surroundings start caps).result = .ok units)
      (finished : (sequentialCourse board config surroundings start caps).result = .ok ())
      (entered : caps.supportsDeviceMode = true)
      (broke : (serviceCourse board config surroundings start caps).result = .ok (.error panic)) :
      BreaksDown (.servicePanic panic)

end

/-- What a run has published that breaks down in this way, or not at all: every step before the
breakdown has taken place. -/
inductive StepsTaken (config : Config) (surroundings : Surroundings) :
    Reply Capabilities → Option Breakdown → List Event → Prop where
  | probe {panic : Panic} :
      StepsTaken config surroundings (.error panic) (some (.probe panic)) [.stageChanged .probing]
  | unit {caps : Capabilities} {name : String} {panic : Panic} (completed : List Event) :
      StepsTaken config surroundings (.ok caps) (some (.unit name panic))
        ([.stageChanged .probing, .stageChanged .concurrentPhase] ++
          (launches caps.unitNames ++ completed))
  | allocation {caps : Capabilities} {launched : Nat} {panic : Panic} {units : List Event}
      (released : ConcurrentTrace caps.unitNames (surroundings.battery 0).phaseTimes.phase
        (.ok launched) units) (rest : List Event) :
      StepsTaken config surroundings (.ok caps) (some (.allocation panic))
        ([.stageChanged .probing, .stageChanged .concurrentPhase] ++
          (units ++ .stageChanged .sequentialPhase :: rest))
  | media {caps : Capabilities} {launched : Nat} {before : List MediaTarget}
      {target : MediaTarget} {panic : Panic} {units stress tests : List Event}
      (released : ConcurrentTrace caps.unitNames (surroundings.battery 0).phaseTimes.phase
        (.ok launched) units)
      (stressed : AllocationTrace ((surroundings.battery 0).allocation config.allocation)
        (surroundings.battery 0) (.ok ()) stress)
      (tested : MediaTrace .startup before (.ok ()) tests) :
      StepsTaken config surroundings (.ok caps) (some (.media before target panic))
        ([.stageChanged .probing, .stageChanged .concurrentPhase] ++
          (units ++ .stageChanged .sequentialPhase :: (stress ++ tests)))
  | service {caps : Capabilities} {fault : Fault} {phases : List Event}
      (through : PhasesTrace caps config (surroundings.battery 0) phases)
      (batteries : List Event) :
      StepsTaken config surroundings (.ok caps) (some (.service fault))
        ([.stageChanged .probing, .stageChanged .concurrentPhase] ++
          (phases ++ ([.stageChanged .deviceModeService, .deviceModeEntered] ++ batteries)))
  | servicePanic {caps : Capabilities} {panic : Panic} {phases : List Event}
      (through : PhasesTrace caps config (surroundings.battery 0) phases)
      (batteries : List Event) :
      StepsTaken config surroundings (.ok caps) (some (.servicePanic panic))
        ([.stageChanged .probing, .stageChanged .concurrentPhase] ++
          (phases ++ ([.stageChanged .deviceModeService, .deviceModeEntered] ++ batteries)))
  | complete {caps : Capabilities} {phases : List Event}
      (through : PhasesTrace caps config (surroundings.battery 0) phases)
      (no_service : caps.supportsDeviceMode = false) :
      StepsTaken config surroundings (.ok caps) none
        ([.stageChanged .probing, .stageChanged .concurrentPhase] ++
          (phases ++ [.stageChanged .idle, .goodbye surroundings.elapsed]))
  | served {caps : Capabilities} {phases : List Event}
      (through : PhasesTrace caps config (surroundings.battery 0) phases)
      (entered : caps.supportsDeviceMode = true) (batteries : List Event) :
      StepsTaken config surroundings (.ok caps) none
        ([.stageChanged .probing, .stageChanged .concurrentPhase] ++
          (phases ++ ([.stageChanged .deviceModeService, .deviceModeEntered] ++ batteries)))

namespace Orchestrator

section

variable {board : Board σ} {config : Config} {surroundings : Surroundings} {start : σ}
  {caps : Capabilities}

/-- The first battery of a run runs in a world without strays. -/
theorem calm_of_released {units : Nat}
    (released : (concurrentCourse board config surroundings start caps).result = .ok units) :
    (concurrentCourse board config surroundings start caps).state.strays = [] :=
  strays_runConcurrent _ _ _ _ rfl released

/-- The concurrent phase fails exactly if a unit's abortion is the first signal of one, and its
fault names the unit. -/
theorem concurrentCourse_eq_error_iff (fault : Fault) :
    (concurrentCourse board config surroundings start caps).result = .error fault ↔
      ∃ name panic, BreaksFirst (registry caps board (surroundings.battery 0).hostChecks)
          (surroundings.battery 0).schedule (surroundings.battery 0).phaseTimes
          (.ofBoard (probeCourse board config start).state) name panic ∧
        fault = .checkAborted name panic.message :=
  runConcurrent_eq_error_iff _ _ _ _ fault

/-- If the allocation step panics, the sequential phase breaks off there. -/
theorem sequentialCourse_of_panic (board : Board σ) (start : σ) (caps : Capabilities)
    {panic : Panic}
    (broke : (((surroundings.battery 0).allocation config.allocation).stress
      (surroundings.battery 0).memory).2 = .error panic) :
    (sequentialCourse board config surroundings start caps).result =
      .error (brokenOff "alloc" panic) :=
  (runSequential_of_panic caps config board .startup (surroundings.battery 0) broke).1

variable {units : Nat} {answer : CheckResult}
  (released : (concurrentCourse board config surroundings start caps).result = .ok units)
  (stressed : (((surroundings.battery 0).allocation config.allocation).stress
    (surroundings.battery 0).memory).2 = .ok answer)

include released stressed

/-- If the allocation step does not panic, the sequential phase goes on to its media and ends as
they do. -/
theorem sequentialCourse_of_answer :
    ∃ first, AllocationTrace ((surroundings.battery 0).allocation config.allocation)
        (surroundings.battery 0) (.ok ()) first ∧
      (sequentialCourse board config surroundings start caps).result =
        (runMediaPlan caps config board .startup (surroundings.battery 0)
          (concurrentCourse board config surroundings start caps).state).result ∧
      Transcript.events (sequentialCourse board config surroundings start caps).notes =
        first ++ Transcript.events (runMediaPlan caps config board .startup
          (surroundings.battery 0)
          (concurrentCourse board config surroundings start caps).state).notes := by
  have calm := calm_of_released released
  apply runSequential_of_answer caps config board .startup (surroundings.battery 0) stressed
  rw [World.advanceStrays_of_calm calm]

/-- If a medium breaks, the sequential phase breaks off at it, with the tests before it told. -/
theorem sequentialCourse_of_mediaBreaks {before : List MediaTarget} {target : MediaTarget}
    {panic : Panic}
    (broke : MediaBreaks board
      (concurrentCourse board config surroundings start caps).state.board
      (mediaPlan caps config .startup) before target panic) :
    ∃ stress tests, AllocationTrace ((surroundings.battery 0).allocation config.allocation)
        (surroundings.battery 0) (.ok ()) stress ∧
      MediaTrace .startup before (.ok ()) tests ∧
      (sequentialCourse board config surroundings start caps).result =
        .error (brokenOff ("media " ++ target.identifier) panic) ∧
      Transcript.events (sequentialCourse board config surroundings start caps).notes =
        stress ++ tests := by
  obtain ⟨stress, allocated, result, published⟩ := sequentialCourse_of_answer released stressed
  obtain ⟨fails, tested⟩ := runMediaPlan_of_breaks caps config board .startup
    (surroundings.battery 0) (calm_of_released released) broke
  exact ⟨stress, _, allocated, tested, result.trans fails, published⟩

end

section

variable {board : Board σ} {config : Config} {build : Build} {surroundings : Surroundings}
  {start : σ} {orchestrator : Orchestrator σ}
  (created : create config build start = .ok orchestrator)

include created

/-- A breakdown ends the run with its fault and at its stage, after the steps before it. -/
theorem run_of_breaksDown {breakdown : Breakdown}
    (breaks : BreaksDown board config surroundings start breakdown) :
    (run board surroundings orchestrator).result =
        .error (breakdown.fault surroundings.probeTask) ∧
      (run board surroundings orchestrator).state.stage = breakdown.stage ∧
      StepsTaken config surroundings (probeCourse board config start).result (some breakdown)
        (Transcript.events (run board surroundings orchestrator).notes) := by
  cases breaks with
  | @probe panic broke =>
    have probed : (probeCourse board config start).result = .error panic :=
      (Capabilities.probe_eq_error_iff board config start panic).mpr broke
    obtain ⟨result, stage, events⟩ := run_of_create created (conduct_of_panic build probed)
    rw [events, probed]
    exact ⟨result, stage, .probe⟩
  | @unit caps name panic probed broke =>
    have aborted := (concurrentCourse_eq_error_iff _).mpr ⟨name, panic, broke, rfl⟩
    obtain ⟨result, stage, events⟩ :=
      run_of_create created (conduct_of_concurrent_error build probed aborted)
    obtain ⟨completed, launched⟩ :=
      (concurrentCourse_trace board config surroundings start caps).exists_launches
    rw [events, probed, launched]
    exact ⟨result, stage, .unit completed⟩
  | @allocation caps units panic probed released broke =>
    have fails := sequentialCourse_of_panic board start caps broke
    obtain ⟨result, stage, events⟩ :=
      run_of_create created (conduct_of_sequential_error build probed released fails)
    have launched := concurrentCourse_trace board config surroundings start caps
    rw [released] at launched
    rw [events, probed]
    exact ⟨result, stage, .allocation launched _⟩
  | @media caps units answer before target panic probed released stressed broke =>
    obtain ⟨stress, tests, allocated, tested, fails, steps⟩ :=
      sequentialCourse_of_mediaBreaks released stressed broke
    obtain ⟨result, stage, events⟩ :=
      run_of_create created (conduct_of_sequential_error build probed released fails)
    have launched := concurrentCourse_trace board config surroundings start caps
    rw [released] at launched
    rw [events, probed, steps]
    exact ⟨result, stage, .media launched allocated tested⟩
  | @service caps units fault probed released finished entered refused =>
    have ends := came_ending_of_service entered refused
    obtain ⟨result, stage, events⟩ :=
      run_of_create created (conduct_of_ending build probed released finished ends)
    have through := phasesTrace board config surroundings start caps released finished
    rw [events, probed]
    exact ⟨result, stage, .service through _⟩
  | @servicePanic caps units panic probed released finished entered broke =>
    have ends := came_ending_of_service entered broke
    obtain ⟨result, stage, events⟩ :=
      run_of_create created (conduct_of_ending build probed released finished ends)
    have through := phasesTrace board config surroundings start caps released finished
    rw [events, probed]
    exact ⟨result, stage, .servicePanic through _⟩

/-- A run that does not break down goes well, and takes every step. -/
theorem breaksDown_or_ok (board : Board σ) (surroundings : Surroundings) :
    (∃ breakdown, BreaksDown board config surroundings start breakdown) ∨
      ∃ terminal, (run board surroundings orchestrator).result = .ok terminal ∧
        StepsTaken config surroundings (probeCourse board config start).result none
          (Transcript.events (run board surroundings orchestrator).notes) := by
  rcases probed : (probeCourse board config start).result with panic | caps
  · have broke := (Capabilities.probe_eq_error_iff board config start panic).mp probed
    exact .inl ⟨_, .probe broke⟩
  rcases released : (concurrentCourse board config surroundings start caps).result with fault | units
  · obtain ⟨name, panic, broke, -⟩ := (concurrentCourse_eq_error_iff fault).mp released
    exact .inl ⟨_, .unit probed broke⟩
  rcases stressed : (((surroundings.battery 0).allocation config.allocation).stress
    (surroundings.battery 0).memory).2 with panic | answer
  · exact .inl ⟨_, .allocation probed released stressed⟩
  rcases finished : (sequentialCourse board config surroundings start caps).result with fault | ⟨⟩
  · obtain ⟨-, -, same, -⟩ := sequentialCourse_of_answer released stressed
    obtain ⟨before, target, panic, broke, -⟩ := exists_breaks_of_runMediaPlan caps config board
      .startup (surroundings.battery 0) (calm_of_released released) (same.symm.trans finished)
    exact .inl ⟨_, .media probed released stressed broke⟩
  have through := phasesTrace board config surroundings start caps released finished
  cases service : caps.supportsDeviceMode with
  | false =>
    have ends := came_ending_of_no_service board config surroundings service
    obtain ⟨result, -, events⟩ :=
      run_of_create created (conduct_of_ending build probed released finished (ends _))
    rw [events]
    exact .inr ⟨_, result, .complete through service⟩
  | true =>
    obtain ⟨reply, served⟩ := serviceCourse_result board config surroundings start caps
    rcases reply with panic | fault | ⟨⟩
    · exact .inl ⟨_, .servicePanic probed released finished service served⟩
    · exact .inl ⟨_, .service probed released finished service served⟩
    · have ends := came_ending_of_service service served
      obtain ⟨result, -, events⟩ :=
        run_of_create created (conduct_of_ending build probed released finished ends)
      rw [events]
      exact .inr ⟨_, result, .served through service _⟩

end

/-- The first run of a new orchestrator fails exactly if it breaks down.  It then fails with the
fault of the breakdown, which is fatal, and stands at the stage of the breakdown; every step
before the breakdown has taken place.  If nothing breaks down, every step takes place. -/
theorem first_run_fails_iff_breaks_down {config : Config} {build : Build} {start : σ}
    {orchestrator : Orchestrator σ} (created : create config build start = .ok orchestrator)
    (board : Board σ) (surroundings : Surroundings) :
    let course := run board surroundings orchestrator
    let probed := (probeCourse board config start).result
    (∀ fault, course.result = .error fault ↔
      ∃ breakdown, BreaksDown board config surroundings start breakdown ∧
        breakdown.fault surroundings.probeTask = fault) ∧
    (∀ breakdown, BreaksDown board config surroundings start breakdown →
      (breakdown.fault surroundings.probeTask).isFatal = true ∧
        course.state.stage = breakdown.stage ∧
        StepsTaken config surroundings probed (some breakdown)
          (Transcript.events course.notes)) ∧
    ((∀ breakdown, ¬ BreaksDown board config surroundings start breakdown) →
      StepsTaken config surroundings probed none (Transcript.events course.notes)) := by
  intro course probed
  refine ⟨fun fault => ⟨fun failed => ?_, ?_⟩, ?_, ?_⟩
  · rcases breaksDown_or_ok created board surroundings with ⟨breakdown, breaks⟩ | ⟨terminal, ends, -⟩
    · have result := (run_of_breaksDown created breaks).1
      exact ⟨breakdown, breaks, Except.error.inj (result.symm.trans failed)⟩
    · cases ends.symm.trans failed
  · rintro ⟨breakdown, breaks, rfl⟩
    exact (run_of_breaksDown created breaks).1
  · intro breakdown breaks
    obtain ⟨-, stage, taken⟩ := run_of_breaksDown created breaks
    exact ⟨breakdown.isFatal_fault _, stage, taken⟩
  · intro sound
    rcases breaksDown_or_ok created board surroundings with ⟨breakdown, breaks⟩ | ⟨terminal, -, taken⟩
    · exact absurd breaks (sound breakdown)
    · exact taken

/-- The first medium fails its test, which does no harm; the second breaks off, and the run fails
with it. -/
theorem first_run_fails_at_second_medium :
    let script : Script :=
      .reading [.ok (.error (.unsupported "media")), .error (.text "bus error")] 0
    let orchestrator : Orchestrator Script.Position :=
      ⟨.standard, ⟨"", "", "", ""⟩, .standard, ⟨.probing, .ofBoard script.start⟩⟩
    create .standard ⟨"", "", "", ""⟩ script.start = .ok orchestrator ∧
      BreaksDown script.board .standard .quiet script.start
        (.media [⟨"usdhc1", 10485760, 32767⟩] ⟨"usdhc2", 10485760, 32767⟩ (.text "bus error")) ∧
      (run script.board .quiet orchestrator).result =
        .error (.stepAborted "media usdhc2" "bus error") := by
  intro script orchestrator
  let caps : Capabilities := ⟨.physical, .imx6UL, 528000000, "i.MX6UL"⟩
  have probed : (probeCourse script.board .standard script.start).result = .ok caps := by
    decide +kernel
  have released : (concurrentCourse script.board .standard .quiet script.start caps).result =
      .ok 6 := by
    decide +kernel
  have stressed : (((Surroundings.quiet.battery 0).allocation Config.standard.allocation).stress
      (Surroundings.quiet.battery 0).memory).2 = .ok (.ok ()) := by
    decide +kernel
  let first : MediaTarget := ⟨"usdhc1", 10485760, 32767⟩
  let second : MediaTarget := ⟨"usdhc2", 10485760, 32767⟩
  have read : ∀ state, (script.board.testMedia first state).1 =
        .ok (.error (.unsupported "media")) →
      (script.board.testMedia second (script.board.testMedia first state).2).1 =
        .error (.text "bus error") →
      MediaBreaks script.board state (mediaPlan caps .standard .startup) [first] second
        (.text "bus error") := by
    intro state answered broke
    exact .later answered (.first broke)
  have broke := read (concurrentCourse script.board .standard .quiet script.start caps).state.board
    (by decide +kernel) (by decide +kernel)
  have breaks := BreaksDown.media probed released stressed broke
  have created : create .standard ⟨"", "", "", ""⟩ script.start = .ok orchestrator := rfl
  have fails := (first_run_fails_iff_breaks_down created script.board .quiet).1
  exact ⟨created, breaks, (fails _).mpr ⟨_, breaks, rfl⟩⟩

end Orchestrator

end BoardDiagnostics
