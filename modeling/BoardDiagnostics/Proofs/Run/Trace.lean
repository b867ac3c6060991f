import BoardDiagnostics.Proofs.Run.Courses

/-!
# The words of a run

A run publishes one of the words of `RunTrace`: the stages in order, within each phase what the
phase publishes, and in device mode what the batteries publish that the board asks for.  A word
breaks off where the run does.
-/

set_option autoImplicit false

namespace BoardDiagnostics

variable {σ : Type}

/-- What a run publishes between its first two stages and its last, if all goes well. -/
inductive PhasesTrace (caps : Capabilities) (config : Config) (conditions : Conditions) :
    List Event → Prop where
  | through {launched : Nat} {units steps : List Event}
      (released : ConcurrentTrace caps.unitNames conditions.phaseTimes.phase (.ok launched) units)
      (finished : SequentialTrace caps config .startup conditions (.ok ()) steps) :
      PhasesTrace caps config conditions (units ++ .stageChanged .sequentialPhase :: steps)

/-- What a run publishes, by the reply of its probe and by its own result.  The device-mode service
gets these answers to its requests for batteries, depending on the capabilities. -/
inductive RunTrace (config : Config) (surroundings : Surroundings)
    (answers : Capabilities → List (Except Fault Unit)) :
    Reply Capabilities → Except Fault Terminal → List Event → Prop where
  | probe {panic : Panic} :
      RunTrace config surroundings answers (.error panic)
        (.error (Orchestrator.probeFault surroundings.probeTask panic)) [.stageChanged .probing]
  | concurrent {caps : Capabilities} {fault : Fault} {units : List Event}
      (aborted : ConcurrentTrace caps.unitNames (surroundings.battery 0).phaseTimes.phase
        (.error fault) units) :
      RunTrace config surroundings answers (.ok caps) (.error fault)
        ([.stageChanged .probing, .stageChanged .concurrentPhase] ++ units)
  | sequential {caps : Capabilities} {fault : Fault} {launched : Nat} {units steps : List Event}
      (released : ConcurrentTrace caps.unitNames (surroundings.battery 0).phaseTimes.phase
        (.ok launched) units)
      (broken : SequentialTrace caps config .startup (surroundings.battery 0) (.error fault)
        steps) :
      RunTrace config surroundings answers (.ok caps) (.error fault)
        ([.stageChanged .probing, .stageChanged .concurrentPhase] ++
          (units ++ .stageChanged .sequentialPhase :: steps))
  | complete {caps : Capabilities} {phases : List Event}
      (through : PhasesTrace caps config (surroundings.battery 0) phases)
      (no_service : caps.supportsDeviceMode = false) :
      RunTrace config surroundings answers (.ok caps) (.ok (.complete surroundings.elapsed))
        ([.stageChanged .probing, .stageChanged .concurrentPhase] ++
          (phases ++ [.stageChanged .idle, .goodbye surroundings.elapsed]))
  | service {caps : Capabilities} {phases batteries : List Event}
      {reply : Reply (Except Fault Unit)}
      (through : PhasesTrace caps config (surroundings.battery 0) phases)
      (entered : caps.supportsDeviceMode = true)
      (reruns : RerunsTrace caps config surroundings.battery 1 (answers caps) batteries) :
      RunTrace config surroundings answers (.ok caps) (serviceEnd reply)
        ([.stageChanged .probing, .stageChanged .concurrentPhase] ++
          (phases ++ ([.stageChanged .deviceModeService, .deviceModeEntered] ++ batteries)))

namespace Orchestrator

section

variable (board : Board σ) (config : Config) (surroundings : Surroundings) (start : σ)
  (caps : Capabilities)

/-- The concurrent phase of a run publishes what such a phase does. -/
theorem concurrentCourse_trace :
    ConcurrentTrace caps.unitNames (surroundings.battery 0).phaseTimes.phase
      (concurrentCourse board config surroundings start caps).result
      (Transcript.events (concurrentCourse board config surroundings start caps).notes) :=
  runRegistered_trace caps board (surroundings.battery 0) _

/-- The sequential phase of a run publishes what such a phase does. -/
theorem sequentialCourse_trace :
    SequentialTrace caps config .startup (surroundings.battery 0)
      (sequentialCourse board config surroundings start caps).result
      (Transcript.events (sequentialCourse board config surroundings start caps).notes) :=
  runSequential_trace caps config board .startup (surroundings.battery 0) _

/-- Two phases that are through publish one behind the other, with the change of stage between them.
-/
theorem phasesTrace {units : Nat}
    (released : (concurrentCourse board config surroundings start caps).result = .ok units)
    (finished : (sequentialCourse board config surroundings start caps).result = .ok ()) :
    PhasesTrace caps config (surroundings.battery 0)
      (Transcript.events (concurrentCourse board config surroundings start caps).notes ++
        .stageChanged .sequentialPhase ::
          Transcript.events (sequentialCourse board config surroundings start caps).notes) := by
  have launched := concurrentCourse_trace board config surroundings start caps
  have steps := sequentialCourse_trace board config surroundings start caps
  rw [released] at launched
  rw [finished] at steps
  exact .through launched steps

/-- The device-mode service of a run publishes what its reruns do. -/
theorem serviceCourse_trace :
    RerunsTrace caps config surroundings.battery 1
      (serviceAnswers board config surroundings start caps)
      (Transcript.events (serviceCourse board config surroundings start caps).notes) :=
  follow_trace caps config board surroundings.battery _ 1 _

end

/-- The first run of a new orchestrator publishes a word of `RunTrace`, whatever the board does,
whoever goes on when, and however often the board asks for a battery.  What it publishes is what
its event log is fed with. -/
theorem trace_of_first_run {config : Config} {build : Build} {start : σ}
    {orchestrator : Orchestrator σ} (created : create config build start = .ok orchestrator)
    (board : Board σ) (surroundings : Surroundings) :
    let course := run board surroundings orchestrator
    RunTrace config surroundings (serviceAnswers board config surroundings start)
        (probeCourse board config start).result course.result
        (Transcript.events course.notes) ∧
      course.state.log = EventLog.standard.publishAll (Transcript.events course.notes) := by
  intro course
  have logged : course.state.log =
      EventLog.standard.publishAll (Transcript.events course.notes) := by
    obtain rfl := eq_of_create created
    rfl
  refine ⟨?_, logged⟩
  rcases probed : (probeCourse board config start).result with panic | caps
  · obtain ⟨result, -, events⟩ := run_of_create created (conduct_of_panic build probed)
    rw [result, events]
    exact .probe
  have units := concurrentCourse_trace board config surroundings start caps
  have steps := sequentialCourse_trace board config surroundings start caps
  rcases launched : (concurrentCourse board config surroundings start caps).result with fault | count
  · obtain ⟨result, -, events⟩ :=
      run_of_create created (conduct_of_concurrent_error build probed launched)
    rw [launched] at units
    rw [result, events]
    exact .concurrent units
  rcases finished : (sequentialCourse board config surroundings start caps).result with fault | ⟨⟩
  · obtain ⟨result, -, events⟩ :=
      run_of_create created (conduct_of_sequential_error build probed launched finished)
    rw [launched] at units
    rw [finished] at steps
    rw [result, events]
    exact .sequential units steps
  have through := phasesTrace board config surroundings start caps launched finished
  cases service : caps.supportsDeviceMode with
  | false =>
    have ends := came_ending_of_no_service board config surroundings service
    obtain ⟨result, -, events⟩ :=
      run_of_create created (conduct_of_ending build probed launched finished (ends _))
    rw [result, events]
    exact .complete through service
  | true =>
    have batteries := serviceCourse_trace board config surroundings start caps
    obtain ⟨reply, served⟩ := serviceCourse_result board config surroundings start caps
    have ends := came_ending_of_service service served
    obtain ⟨result, -, events⟩ :=
      run_of_create created (conduct_of_ending build probed launched finished ends)
    rw [result, events]
    exact .service through service batteries

/-- The board asks for one battery, in which the first medium breaks off, and goes on all the
same. -/
theorem trace_of_run_with_broken_rerun :
    let config : Config := { allocation := { runs := 2 } }
    let script : Script :=
      .reading [.ok (.ok ()), .ok (.error (.unsupported "media")), .error (.text "bus error")] 1
    let orchestrator : Orchestrator Script.Position :=
      ⟨config, ⟨"", "", "", ""⟩, .standard, ⟨.probing, .ofBoard script.start⟩⟩
    let course := run script.board .quiet orchestrator
    let units := ["fs", "timer", "sleep", "rng", "ecdsa", "btc"]
    let phase := launches units ++ completions (units.map fun name => ⟨name, .zero, .passed⟩) ++
      [.concurrentReleased 6 .zero]
    let stress : List Event := [.allocationStarted 2 1 167772160, .allocationCycle 1 .zero,
      .allocationCycle 2 .zero, .allocationFinished 2 .zero]
    create config ⟨"", "", "", ""⟩ script.start = .ok orchestrator ∧
      RunTrace config .quiet (serviceAnswers script.board config .quiet script.start)
        (probeCourse script.board config script.start).result course.result
        (Transcript.events course.notes) ∧
      Transcript.events course.notes =
        [.stageChanged .probing, .stageChanged .concurrentPhase] ++ phase ++
          .stageChanged .sequentialPhase :: stress ++
          [.mediaTested "usdhc1" 32767 .startup true, .mediaTested "usdhc2" 32767 .startup false,
            .stageChanged .deviceModeService, .deviceModeEntered] ++ phase ++ stress := by
  intro config script orchestrator course units phase stress
  have created : create config ⟨"", "", "", ""⟩ script.start = .ok orchestrator := rfl
  refine ⟨created, (trace_of_first_run created script.board .quiet).1, ?_⟩
  decide +kernel

end Orchestrator

end BoardDiagnostics
