import BoardDiagnostics.Proofs.Run.Courses

/-!
# Runs one after another

An orchestrator that has left its first stage refuses every further run and stays as it is.  A run
whose probe breaks off does not leave the first stage, so the next run is conducted like the first.
-/

set_option autoImplicit false

namespace BoardDiagnostics.Orchestrator

variable {σ : Type}

/-- The courses of runs of one orchestrator, one after another. -/
def runs (board : Board σ) : List Surroundings → Orchestrator σ →
    List (Course Entry (Orchestrator σ) Fault Terminal)
  | [], _ => []
  | surroundings :: later, orchestrator =>
    let course := run board surroundings orchestrator
    course :: runs board later course.state

/-- The course of a run that is refused: nothing is noted, and nothing changes. -/
def refusal (orchestrator : Orchestrator σ) : Course Entry (Orchestrator σ) Fault Terminal :=
  ⟨.error (alreadyRan orchestrator.stage), orchestrator, []⟩

section

variable (board : Board σ) {orchestrator : Orchestrator σ}

/-- An orchestrator that has left its first stage refuses to run. -/
theorem run_of_ran (ran : orchestrator.stage ≠ .probing) (surroundings : Surroundings) :
    run board surroundings orchestrator = refusal orchestrator := by
  unfold run refusal
  rw [if_pos ran]

/-- It refuses every further run, and stays as it is. -/
theorem runs_of_ran (ran : orchestrator.stage ≠ .probing) (calls : List Surroundings) :
    runs board calls orchestrator = List.replicate calls.length (refusal orchestrator) := by
  induction calls with
  | nil => rfl
  | cons surroundings later ih =>
    have first := run_of_ran board ran surroundings
    have stays : (run board surroundings orchestrator).state = orchestrator := by
      rw [first]
      rfl
    simp only [runs, List.length_cons, List.replicate_succ]
    rw [stays, ih, first]

/-- An orchestrator at its first stage conducts a run. -/
theorem run_of_unrun (unrun : orchestrator.stage = .probing) (surroundings : Surroundings) :
    run board surroundings orchestrator =
      let course := conduct board orchestrator.config orchestrator.build surroundings
        orchestrator.state
      ⟨course.result,
        { orchestrator with
          log := orchestrator.log.publishAll (Transcript.events course.notes)
          state := course.state },
        course.notes⟩ := by
  unfold run
  exact if_neg (not_not_intro unrun)

/-- A run that is conducted publishes its first stage, so it is no refusal. -/
theorem run_ne_refusal (unrun : orchestrator.stage = .probing) (surroundings : Surroundings) :
    run board surroundings orchestrator ≠ refusal orchestrator := by
  intro refused
  rw [run_of_unrun board unrun] at refused
  have notes := congrArg Course.notes refused
  unfold conduct refusal at notes
  rw [Activity.bind_of_ok rfl] at notes
  cases notes

end

/-- A run leaves its first stage as soon as its probe has returned. -/
theorem stage_conduct_of_probed {board : Board σ} {config : Config} (build : Build)
    {surroundings : Surroundings} {start : σ} {caps : Capabilities}
    (probed : (probeCourse board config start).result = .ok caps) :
    (conduct board config build surroundings ⟨.probing, .ofBoard start⟩).state.stage ≠
      .probing := by
  have at_stage : ∀ {result : Except Fault Terminal} {state : RunState σ} {events : List Event},
      Came (conduct board config build surroundings ⟨.probing, .ofBoard start⟩) result state
        events →
      state.stage ≠ .probing →
      (conduct board config build surroundings ⟨.probing, .ofBoard start⟩).state.stage ≠
        .probing := by
    intro result state events came later
    rw [came.state_eq]
    exact later
  rcases released : (concurrentCourse board config surroundings start caps).result with fault | units
  · exact at_stage (conduct_of_concurrent_error build probed released) (by simp)
  rcases finished : (sequentialCourse board config surroundings start caps).result with fault | ⟨⟩
  · exact at_stage (conduct_of_sequential_error build probed released finished) (by simp)
  cases service : caps.supportsDeviceMode with
  | false =>
    have ends := came_ending_of_no_service board config surroundings service
    exact at_stage (conduct_of_ending build probed released finished (ends _)) (by simp)
  | true =>
    obtain ⟨reply, served⟩ := serviceCourse_result board config surroundings start caps
    have ends := came_ending_of_service service served
    exact at_stage (conduct_of_ending build probed released finished ends) (by simp)

section

variable {board : Board σ} {config : Config} {build : Build} {surroundings : Surroundings}
  {start : σ} {orchestrator : Orchestrator σ}
  (created : create config build start = .ok orchestrator)

include created

variable (surroundings) in
/-- A probe that breaks off leaves the orchestrator at its first stage, with the board as the probe
left it. -/
theorem state_of_broken_probe {panic : Panic}
    (broke : (probeCourse board config start).result = .error panic) :
    (run board surroundings orchestrator).state =
      { orchestrator with
        log := orchestrator.log.publish (.stageChanged .probing)
        state := ⟨.probing, .ofBoard (probeCourse board config start).state⟩ } := by
  have came : Came (conduct board config build surroundings ⟨.probing, .ofBoard start⟩) _ _ _ :=
    conduct_of_panic build broke
  obtain rfl := eq_of_create created
  rw [run_of_unrun board rfl]
  show Orchestrator.mk _ _ (EventLog.standard.publishAll _) _ = _
  rw [came.events_eq, came.state_eq]
  rfl

variable (surroundings) in
/-- A run whose probe is through leaves the first stage for good. -/
theorem stage_of_probed {caps : Capabilities}
    (probed : (probeCourse board config start).result = .ok caps) :
    (run board surroundings orchestrator).state.stage ≠ .probing := by
  obtain rfl := eq_of_create created
  rw [run_of_unrun board rfl]
  exact stage_conduct_of_probed build probed

end

/-- All runs of a new orchestrator after its first are refused and change nothing exactly if the
probe of the first run returned, however that run went on.  After a probe that broke off, the
orchestrator is as it was when it was new, apart from the event log and from what the probe did to
the board. -/
theorem later_runs_refused_iff_probe_returned {config : Config} {build : Build} {start : σ}
    {orchestrator : Orchestrator σ} (created : create config build start = .ok orchestrator)
    (board : Board σ) (first : Surroundings) {later : List Surroundings} (again : later ≠ []) :
    let course := run board first orchestrator
    let probed := (probeCourse board config start).result
    ((∀ next ∈ runs board later course.state, next = refusal course.state) ↔
      ∃ caps, probed = .ok caps) ∧
    ∀ panic, probed = .error panic →
      course.state = { orchestrator with
        log := orchestrator.log.publish (.stageChanged .probing)
        state := ⟨.probing, .ofBoard (probeCourse board config start).state⟩ } := by
  intro course probed
  refine ⟨⟨?_, ?_⟩, fun panic broke => state_of_broken_probe first created broke⟩
  -- A second run after a probe that broke off would be conducted, not refused.
  · intro refused
    rcases broke : (probeCourse board config start).result with panic | caps
    · have state := state_of_broken_probe first created broke
      have unrun : course.state.stage = .probing := by
        show (run board first orchestrator).state.stage = .probing
        rw [state]
        rfl
      obtain ⟨second, rest, rfl⟩ := List.exists_cons_of_ne_nil again
      have member : run board second course.state ∈ runs board (second :: rest) course.state :=
        List.mem_cons_self
      exact absurd (refused _ member) (run_ne_refusal board unrun second)
    · exact ⟨caps, broke⟩
  · rintro ⟨caps, returned⟩ next member
    have ran := stage_of_probed first created returned
    rw [runs_of_ran board ran] at member
    exact List.eq_of_mem_replicate member

/-- The first run breaks off at a medium; the two runs after it are refused. -/
theorem later_runs_refused_after_broken_medium :
    let script : Script := .reading [.error (.text "bus error")] 0
    let orchestrator : Orchestrator Script.Position :=
      ⟨.standard, ⟨"", "", "", ""⟩, .standard, ⟨.probing, .ofBoard script.start⟩⟩
    let course := run script.board .quiet orchestrator
    create .standard ⟨"", "", "", ""⟩ script.start = .ok orchestrator ∧
      [Surroundings.quiet, .quiet] ≠ [] ∧
      course.result = .error (.stepAborted "media usdhc1" "bus error") ∧
      ∀ next ∈ runs script.board [.quiet, .quiet] course.state, next = refusal course.state := by
  intro script orchestrator course
  let caps : Capabilities := ⟨.physical, .imx6UL, 528000000, "i.MX6UL"⟩
  have created : create .standard ⟨"", "", "", ""⟩ script.start = .ok orchestrator := rfl
  have again : [Surroundings.quiet, .quiet] ≠ [] := List.cons_ne_nil _ _
  have probed : (probeCourse script.board .standard script.start).result = .ok caps := by
    decide +kernel
  refine ⟨created, again, by decide +kernel, ?_⟩
  exact (later_runs_refused_iff_probe_returned created script.board .quiet again).1.mpr
    ⟨caps, probed⟩

/-- The board breaks off when asked for a clock, so the probe does; the second run is not refused
but asks for the clock again. -/
theorem second_run_conducted_after_broken_probe :
    let script : Script := { Script.reading [] 0 with clock := .acts (.error (.text "pll")) }
    let orchestrator : Orchestrator Script.Position :=
      ⟨.standard, ⟨"", "", "", ""⟩, .standard, ⟨.probing, .ofBoard script.start⟩⟩
    let first := run script.board .quiet orchestrator
    let second := run script.board .quiet first.state
    create .standard ⟨"", "", "", ""⟩ script.start = .ok orchestrator ∧
      second.result = .error (probeFault 0 (.text "pll")) ∧
      Transcript.events second.notes = [.stageChanged .probing] ∧
      ¬ ∀ next ∈ runs script.board [.quiet] first.state, next = refusal first.state := by
  intro script orchestrator first second
  have created : create .standard ⟨"", "", "", ""⟩ script.start = .ok orchestrator := rfl
  refine ⟨created, by decide +kernel, by decide +kernel, fun refused => ?_⟩
  have unrun : first.state.stage = .probing := by decide +kernel
  exact run_ne_refusal script.board unrun .quiet (refused second List.mem_cons_self)

end BoardDiagnostics.Orchestrator
