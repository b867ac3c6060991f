import BoardDiagnostics.Proofs.Run.Repeat
import BoardDiagnostics.Proofs.Run.Trace

/-!
# The stages of a run

A stage is entered only from one that may precede it: the stages that a run publishes form a chain,
from the first stage to the one at which the run comes to rest (`conduct_stages`).  Between them the
phases and the batteries of the device-mode service publish no stage at all, so nothing else enters
one.  `isChain_stages_of_runs` is this for any number of runs of one orchestrator.
-/

set_option autoImplicit false

namespace BoardDiagnostics

variable {σ : Type}

/-- The stage that an event tells of. -/
def Event.stage? : Event → Option Stage
  | .stageChanged stage => some stage
  | _ => none

/-- The stages that events tell of, in order. -/
def stagesOf (events : List Event) : List Stage := events.filterMap Event.stage?

/-- Without an event, no stage is entered. -/
@[simp] theorem stagesOf_nil : stagesOf [] = [] := rfl

/-- The stages stand in the order of the events. -/
@[simp] theorem stagesOf_append (first more : List Event) :
    stagesOf (first ++ more) = stagesOf first ++ stagesOf more := List.filterMap_append

/-- A change of stage tells of the stage that is entered. -/
@[simp] theorem stagesOf_cons_stageChanged (stage : Stage) (more : List Event) :
    stagesOf (.stageChanged stage :: more) = stage :: stagesOf more := rfl

/-- Any other event tells of none. -/
theorem stagesOf_cons_of_none {event : Event} (other : event.stage? = none) (more : List Event) :
    stagesOf (event :: more) = stagesOf more := List.filterMap_cons_none other

/-- Events none of which is a change of stage tell of none. -/
theorem stagesOf_map {α : Type} (event : α → Event) (other : ∀ a, (event a).stage? = none)
    (values : List α) : stagesOf (values.map event) = [] := by
  induction values with
  | nil => rfl
  | cons value values ih => rw [List.map_cons, stagesOf_cons_of_none (other value), ih]

/-! ## No stage within a phase -/

/-- Launching units enters no stage. -/
@[simp] theorem stagesOf_launches (names : List String) : stagesOf (launches names) = [] :=
  stagesOf_map _ (fun _ => rfl) names

/-- Releasing units enters no stage. -/
@[simp] theorem stagesOf_completions (signals : List Signal) :
    stagesOf (completions signals) = [] := stagesOf_map _ (fun _ => rfl) signals

/-- A concurrent phase enters no stage. -/
theorem ConcurrentTrace.stages {names : List String} {elapsed : Duration}
    {result : Except Fault Nat} {events : List Event}
    (trace : ConcurrentTrace names elapsed result events) : stagesOf events = [] := by
  cases trace with
  | released =>
    simp only [stagesOf_append, stagesOf_launches, stagesOf_completions, List.nil_append]
    rfl
  | aborted => simp only [stagesOf_append, stagesOf_launches, stagesOf_completions, List.nil_append]

/-- The allocation step enters no stage. -/
theorem AllocationTrace.stages {spec : AllocationSpec} {conditions : Conditions}
    {result : Except Fault Unit} {events : List Event}
    (trace : AllocationTrace spec conditions result events) : stagesOf events = [] := by
  cases trace with
  | finished =>
    rw [stagesOf_append, stagesOf_cons_of_none rfl, stagesOf_map _ fun _ => rfl]
    rfl
  | broken => rfl

/-- The media tests enter no stage. -/
theorem MediaTrace.stages {occasion : Occasion} {targets : List MediaTarget}
    {result : Except Fault Unit} {events : List Event}
    (trace : MediaTrace occasion targets result events) : stagesOf events = [] := by
  induction trace with
  | done => rfl
  | tested _ _ ih => rw [stagesOf_cons_of_none rfl, ih]
  | broken => rfl

variable {caps : Capabilities} {config : Config} {result : Except Fault Unit} {events : List Event}

/-- A sequential phase enters no stage. -/
theorem SequentialTrace.stages {occasion : Occasion} {conditions : Conditions}
    (trace : SequentialTrace caps config occasion conditions result events) :
    stagesOf events = [] := by
  cases trace with
  | allocation broken => exact broken.stages
  | media finished tested => rw [stagesOf_append, finished.stages, tested.stages, List.nil_append]

/-- A battery enters no stage. -/
theorem BatteryTrace.stages {occasion : Occasion} {conditions : Conditions}
    (trace : BatteryTrace caps config occasion conditions result events) :
    stagesOf events = [] := by
  cases trace with
  | concurrent aborted => exact aborted.stages
  | sequential released went =>
    rw [stagesOf_append, released.stages, went.stages, List.nil_append]

/-- The reruns of a session enter no stage. -/
theorem RerunsTrace.stages {conditions : Nat → Conditions} {number : Nat}
    {results : List (Except Fault Unit)}
    (trace : RerunsTrace caps config conditions number results events) : stagesOf events = [] := by
  induction trace with
  | done => rfl
  | battery ran _ ih => rw [stagesOf_append, ran.stages, ih, List.nil_append]

namespace Orchestrator

/-! ## The chain of the stages -/

/-- A run of stages, each of which may precede the next, from the first stage of all to a last
one. -/
structure StagesTo (last : Stage) (stages : List Stage) : Prop where
  first : stages.head? = some .probing
  chain : List.IsChain (fun stage next => stage.canPrecede next = true) stages
  last : stages.getLast? = some last

variable {board : Board σ} {config : Config} {build : Build} {surroundings : Surroundings}

/-- The stages of a run are those of the events that it came to. -/
theorem stagesTo_of_came {start : σ} {result : Except Fault Terminal} {state : RunState σ}
    {events : List Event}
    (came : Came (conduct board config build surroundings ⟨.probing, .ofBoard start⟩) result state
      events)
    (stages : StagesTo state.stage (stagesOf events)) :
    StagesTo (conduct board config build surroundings ⟨.probing, .ofBoard start⟩).state.stage
      (stagesOf (Transcript.events
        (conduct board config build surroundings ⟨.probing, .ofBoard start⟩).notes)) := by
  rw [came.state_eq, came.events_eq]
  exact stages

/-- Whatever a run comes to, each stage that it enters may follow the one at which it stands. -/
theorem conduct_stages (board : Board σ) (config : Config) (build : Build)
    (surroundings : Surroundings) (start : σ) :
    let course := conduct board config build surroundings ⟨.probing, .ofBoard start⟩
    StagesTo course.state.stage (stagesOf (Transcript.events course.notes)) := by
  intro course
  rcases probed : (probeCourse board config start).result with panic | caps
  · exact stagesTo_of_came (conduct_of_panic build probed) ⟨rfl, by decide, rfl⟩
  have units := (concurrentCourse_trace board config surroundings start caps).stages
  have steps := (sequentialCourse_trace board config surroundings start caps).stages
  rcases released : (concurrentCourse board config surroundings start caps).result with
    fault | count
  · refine stagesTo_of_came (conduct_of_concurrent_error build probed released) ?_
    simp only [stagesOf_append, units]
    exact ⟨rfl, by decide, rfl⟩
  rcases finished : (sequentialCourse board config surroundings start caps).result with fault | ⟨⟩
  · refine stagesTo_of_came (conduct_of_sequential_error build probed released finished) ?_
    simp only [stagesOf_append, stagesOf_cons_stageChanged, units, steps]
    exact ⟨rfl, by decide, rfl⟩
  cases service : caps.supportsDeviceMode with
  | false =>
    have ends := came_ending_of_no_service board config surroundings service
    refine stagesTo_of_came (conduct_of_ending build probed released finished (ends _)) ?_
    simp only [stagesOf_append, stagesOf_cons_stageChanged, units, steps]
    have chain : List.IsChain (fun stage next => Stage.canPrecede stage next = true)
        [.probing, .concurrentPhase, .sequentialPhase, .idle] := by decide
    exact ⟨rfl, chain, rfl⟩
  | true =>
    obtain ⟨reply, served⟩ := serviceCourse_result board config surroundings start caps
    have ends := came_ending_of_service service served
    have batteries := (serviceCourse_trace board config surroundings start caps).stages
    refine stagesTo_of_came (conduct_of_ending build probed released finished ends) ?_
    simp only [stagesOf_append, stagesOf_cons_stageChanged, units, steps, batteries]
    exact ⟨rfl, by decide, rfl⟩

/-- The orchestrator stands before its first stage, with a board and no strays. -/
def Unrun (orchestrator : Orchestrator σ) : Prop :=
  ∃ start, orchestrator.state = ⟨.probing, .ofBoard start⟩

/-- A new orchestrator has not run. -/
theorem unrun_of_create {start : σ} {orchestrator : Orchestrator σ}
    (created : create config build start = .ok orchestrator) : orchestrator.Unrun := by
  obtain rfl := eq_of_create created
  exact ⟨start, rfl⟩

/-- After a run, the orchestrator has left its first stage, unless the probe broke off. -/
theorem Unrun.run {orchestrator : Orchestrator σ} (unrun : orchestrator.Unrun) (board : Board σ)
    (surroundings : Surroundings) :
    (run board surroundings orchestrator).state.Unrun ∨
      (run board surroundings orchestrator).state.stage ≠ .probing := by
  obtain ⟨start, stands⟩ := unrun
  rw [run_of_unrun board (congrArg RunState.stage stands), stands]
  rcases probed : (probeCourse board orchestrator.config start).result with panic | caps
  · have came : Came (conduct board orchestrator.config orchestrator.build surroundings
        ⟨.probing, .ofBoard start⟩) _ _ _ := conduct_of_panic orchestrator.build probed
    exact .inl ⟨_, came.state_eq⟩
  · exact .inr (stage_conduct_of_probed orchestrator.build probed)

/-- However often an orchestrator is run, each stage that a run enters may follow the one before. -/
theorem isChain_stages_of_runs {start : σ} {orchestrator : Orchestrator σ}
    (created : create config build start = .ok orchestrator) (board : Board σ)
    (calls : List Surroundings) : ∀ course ∈ runs board calls orchestrator,
      List.IsChain (fun stage next => stage.canPrecede next = true)
        (stagesOf (Transcript.events course.notes)) := by
  have stands : orchestrator.Unrun ∨ orchestrator.stage ≠ .probing := .inl (unrun_of_create created)
  clear created
  induction calls generalizing orchestrator with
  | nil => exact fun course member => absurd member List.not_mem_nil
  | cons surroundings later ih =>
    rcases stands with unrun | ran
    · intro course member
      rcases List.mem_cons.mp member with rfl | after
      · obtain ⟨start, stands⟩ := unrun
        rw [run_of_unrun board (congrArg RunState.stage stands), stands]
        exact (conduct_stages board _ _ surroundings start).chain
      · exact ih (unrun.run board surroundings) course after
    · intro course member
      rw [runs_of_ran board ran] at member
      obtain rfl := List.eq_of_mem_replicate member
      exact .nil

end Orchestrator

end BoardDiagnostics
