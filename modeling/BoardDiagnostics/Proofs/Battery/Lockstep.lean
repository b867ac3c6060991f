import BoardDiagnostics.Proofs.Battery.Exchanges
import BoardDiagnostics.Proofs.Run.Courses

/-!
# Tests and events in lockstep

The media of a sequential phase are tested in their order.  A test that the board answers, be it
with a fault, is told by one event before the next medium is tested; a test that breaks off is told
by none and ends the phase (`MediaExchanges`).  So a phase succeeds exactly if no test breaks off.
The main statement, `sequential_phase_in_lockstep`, is what a whole sequential phase exchanges: the
events of the allocation step, and then, if that step did not break off and the hardware is
physical, the tests of all configured media.
-/

set_option autoImplicit false

namespace BoardDiagnostics

variable {σ : Type}

/-- The exchanges of some media that are tested in order, by the result, from a world in which the
strays go on for a while before each test. -/
inductive MediaExchanges (board : Board σ) (occasion : Occasion) (pauses : Nat → List Nat) :
    Nat → World σ → List MediaTarget → Except Fault Unit → Transcript → Prop where
  | done {number : Nat} {world : World σ} :
      MediaExchanges board occasion pauses number world [] (.ok ()) []
  | answered {number : Nat} {world paused : World σ} {target : MediaTarget}
      {rest : List MediaTarget} {answer : Except Fault Unit} {state : σ}
      {result : Except Fault Unit} {more : Transcript}
      (pause : (world.advanceStrays (pauses (number + 1))).1 = paused)
      (test : board.testMedia target paused.board = (.ok answer, state))
      (others : MediaExchanges board occasion pauses (number + 1) { paused with board := state }
        rest result more) :
      MediaExchanges board occasion pauses number world (target :: rest) result
        (.call (.testMedia target (.ok answer)) ::
          .event (.mediaTested target.identifier target.readChunk occasion answer.isOk) :: more)
  | broken {number : Nat} {world paused : World σ} {target : MediaTarget}
      {rest : List MediaTarget} {panic : Panic}
      (pause : (world.advanceStrays (pauses (number + 1))).1 = paused)
      (test : (board.testMedia target paused.board).1 = .error panic) :
      MediaExchanges board occasion pauses number world (target :: rest)
        (.error (brokenOff ("media " ++ target.identifier) panic))
        [.call (.testMedia target (.error panic))]

/-- The tests of storage media with the replies to them. -/
def Transcript.mediaTests (transcript : Transcript) :
    List (MediaTarget × Reply (Except Fault Unit)) :=
  transcript.calls.filterMap fun
    | .testMedia target reply => some (target, reply)
    | _ => none

section

variable (board : Board σ) (occasion : Occasion) (conditions : Conditions)

/-! ## The media -/

/-- Media tested in order exchange what the law of the lockstep says, as long as the strays spare
them. -/
theorem runMediaFrom_exchanges (number : Nat) (targets : List MediaTarget) {world : World σ}
    (spares : world.SparesMedia) :
    MediaExchanges board occasion conditions.pauses number world targets
      (runMediaFrom board occasion conditions number targets world).result
      (Transcript.exchanges
        (runMediaFrom board occasion conditions number targets world).notes) := by
  induction targets generalizing number world with
  | nil => exact .done
  | cons target rest ih =>
    have silent := World.exchanges_advanceStrays spares (conditions.pauses (number + 1))
    have spares' := spares.advanceStrays (conditions.pauses (number + 1))
    rw [runMediaFrom_cons, Diagnosis.pause_bind_apply]
    generalize pause : (world.advanceStrays (conditions.pauses (number + 1))).1 = paused
    rw [pause] at spares'
    rcases reply : (board.testMedia target paused.board).1 with panic | answer
    · have went := runMedia_eq_of_panic board occasion target (conditions.mediaTime number) reply
      rw [Activity.bind_of_error (congrArg Course.result went), went, Transcript.exchanges_append,
        silent, List.nil_append]
      exact .broken pause reply
    · have went := runMedia_eq_of_answer board occasion target (conditions.mediaTime number) reply
      rw [Activity.bind_of_ok (congrArg Course.result went), went, Transcript.exchanges_append,
        silent, List.nil_append]
      exact .answered pause (Prod.ext reply rfl) (ih (number + 1) spares')

end

namespace MediaExchanges

variable {board : Board σ} {occasion : Occasion} {pauses : Nat → List Nat} {number : Nat}
  {world : World σ} {targets : List MediaTarget} {result : Except Fault Unit}
  {record : Transcript}

/-- The media are tested in their order, from the first one on. -/
theorem tested_isPrefix
    (exchanges : MediaExchanges board occasion pauses number world targets result record) :
    record.mediaTests.map Prod.fst <+: targets := by
  induction exchanges with
  | done => exact List.nil_prefix
  | @answered _ _ _ target rest answer _ _ _ _ _ _ ih => exact List.prefix_cons_inj target |>.mpr ih
  | @broken _ _ _ target rest => exact List.prefix_cons_inj target |>.mpr List.nil_prefix

/-- The media are all tested and answered, or the last one that is tested breaks off. -/
theorem complete_or_broken
    (exchanges : MediaExchanges board occasion pauses number world targets result record) :
    (result = .ok () ∧ record.mediaTests.map Prod.fst = targets ∧
        ∀ test ∈ record.mediaTests, ∃ answer, test.2 = .ok answer) ∨
      ∃ answered target panic, record.mediaTests = answered ++ [(target, .error panic)] ∧
        (∀ test ∈ answered, ∃ answer, test.2 = .ok answer) ∧
        result = .error (brokenOff ("media " ++ target.identifier) panic) := by
  induction exchanges with
  | done => exact .inl ⟨rfl, rfl, nofun⟩
  | @answered _ _ _ target rest answer _ _ more _ _ _ ih =>
    rcases ih with ⟨ends, all, replies⟩ | ⟨before, last, panic, tests, replies, fails⟩
    · refine .inl ⟨ends, congrArg (target :: ·) all, ?_⟩
      exact List.forall_mem_cons.mpr ⟨⟨answer, rfl⟩, replies⟩
    · refine .inr ⟨(target, .ok answer) :: before, last, panic, ?_, ?_, fails⟩
      · exact congrArg ((target, .ok answer) :: ·) tests
      · exact List.forall_mem_cons.mpr ⟨⟨answer, rfl⟩, replies⟩
  | @broken _ _ _ target rest panic => exact .inr ⟨[], target, panic, rfl, nofun, rfl⟩

end MediaExchanges

/-! ## The sequential phase -/

section

variable (caps : Capabilities) (config : Config) (board : Board σ) (occasion : Occasion)
  (conditions : Conditions)

/-- The stress of memory calls no board. -/
theorem calls_runStress (spec : AllocationSpec) (world : World σ) :
    Transcript.calls (runStress spec conditions world).notes = [] := by
  unfold runStress
  rcases spec.stress conditions.memory with ⟨completed, finish⟩
  show Transcript.calls (stressBegin spec ++ (completed.flatMap (runEntries spec conditions.runTime) ++
    _)) = []
  rw [Transcript.calls_append, Transcript.calls_append, calls_flatMap_runEntries]
  split <;> rfl

/-- The allocation step exchanges its events and nothing else. -/
theorem exchanges_runAllocation (world : World σ) :
    Transcript.exchanges (runAllocation config.allocation conditions world).notes =
      (Transcript.events (runAllocation config.allocation conditions world).notes).map .event := by
  apply Transcript.exchanges_eq_events
  have silent := calls_runStress conditions (conditions.allocation config.allocation) world
  intro call asked
  have asked : call ∈ Transcript.calls
      (runStress (conditions.allocation config.allocation) conditions world).notes := asked
  rw [silent] at asked
  cases asked

/-- The exchanges of a sequential phase, by how the allocation step ends and by the hardware. -/
structure SequentialLockstep (world : World σ) : Prop where
  /-- An allocation step that breaks off ends the phase, and no medium is tested. -/
  allocation_breaks : ∀ panic,
    ((conditions.allocation config.allocation).stress conditions.memory).2 = .error panic →
      (runSequential caps config board occasion conditions world).result =
          .error (.stepAborted "alloc" panic.message) ∧
        ∃ first, AllocationTrace (conditions.allocation config.allocation) conditions
            (.error (.stepAborted "alloc" panic.message)) first ∧
          Transcript.exchanges (runSequential caps config board occasion conditions world).notes =
            first.map .event
  /-- Otherwise, nothing but that step is told of emulated hardware, and the phase succeeds. -/
  emulated : ∀ answer,
    ((conditions.allocation config.allocation).stress conditions.memory).2 = .ok answer →
      caps.environment = .emulated →
        (runSequential caps config board occasion conditions world).result = .ok () ∧
          ∃ first, AllocationTrace (conditions.allocation config.allocation) conditions (.ok ())
              first ∧
            Transcript.exchanges
                (runSequential caps config board occasion conditions world).notes =
              first.map .event
  /-- On physical hardware, that step is followed by the tests of the configured media, each told
  before the next one, and the phase succeeds exactly if no test breaks off. -/
  physical : ∀ answer,
    ((conditions.allocation config.allocation).stress conditions.memory).2 = .ok answer →
      caps.environment = .physical →
        let readChunk := match occasion with
          | .startup => config.media.startupReadChunk.toNat
          | .rerun => config.media.rerunReadChunk.toNat
        let targets := config.media.targets.map fun identifier =>
          (⟨identifier, config.media.byteCount.toNat, readChunk⟩ : MediaTarget)
        let result := (runSequential caps config board occasion conditions world).result
        ∃ first tests, AllocationTrace (conditions.allocation config.allocation) conditions
            (.ok ()) first ∧
          Transcript.exchanges (runSequential caps config board occasion conditions world).notes =
            first.map .event ++ tests ∧
          MediaExchanges board occasion conditions.pauses 0
            (world.advanceStrays (conditions.pauses 0)).1 targets result tests ∧
          tests.mediaTests.map Prod.fst <+: targets ∧
          (result = .ok () ↔ ∀ test ∈ tests.mediaTests, ∃ answer, test.2 = .ok answer)

variable {world : World σ}

/-- A stress that breaks off ends the phase, with no exchange behind the events of its step. -/
theorem runSequential_exchanges_of_panic {panic : Panic} (spares : world.SparesMedia)
    (broke : ((conditions.allocation config.allocation).stress conditions.memory).2 =
      .error panic) :
    (runSequential caps config board occasion conditions world).result =
        .error (.stepAborted "alloc" panic.message) ∧
      ∃ first, AllocationTrace (conditions.allocation config.allocation) conditions
          (.error (.stepAborted "alloc" panic.message)) first ∧
        Transcript.exchanges (runSequential caps config board occasion conditions world).notes =
          first.map .event := by
  have silent := World.exchanges_advanceStrays spares (conditions.pauses 0)
  obtain ⟨fails, published⟩ := runAllocation_of_panic config.allocation conditions
    (world.advanceStrays (conditions.pauses 0)).1 broke
  rw [runSequential_apply, Diagnosis.pause_bind_apply, Activity.bind_of_error fails]
  refine ⟨rfl, _, published, ?_⟩
  rw [Transcript.exchanges_append, silent, List.nil_append]
  exact exchanges_runAllocation config conditions _

/-- After an allocation step that has an end, the rest of the phase goes on where it began. -/
theorem runSequential_exchanges_of_answer {answer : CheckResult} (spares : world.SparesMedia)
    (ends : ((conditions.allocation config.allocation).stress conditions.memory).2 = .ok answer) :
    let paused := (world.advanceStrays (conditions.pauses 0)).1
    (runSequential caps config board occasion conditions world).result =
        (runMediaPlan caps config board occasion conditions paused).result ∧
      ∃ first, AllocationTrace (conditions.allocation config.allocation) conditions (.ok ()) first ∧
        Transcript.exchanges (runSequential caps config board occasion conditions world).notes =
          first.map .event ++ Transcript.exchanges
            (runMediaPlan caps config board occasion conditions paused).notes := by
  intro paused
  have silent := World.exchanges_advanceStrays spares (conditions.pauses 0)
  obtain ⟨goes, state, published⟩ :=
    runAllocation_of_answer config.allocation conditions paused ends
  rw [runSequential_apply, Diagnosis.pause_bind_apply, Activity.bind_of_ok goes, state]
  refine ⟨rfl, _, published, ?_⟩
  rw [Transcript.exchanges_append, silent, List.nil_append, Transcript.exchanges_append]
  exact congrArg (· ++ _) (exchanges_runAllocation config conditions _)

end

/-- Every sequential phase tests its media and tells about them in lockstep. -/
theorem sequential_phase_in_lockstep (caps : Capabilities) (config : Config) (board : Board σ)
    (occasion : Occasion) (conditions : Conditions) {world : World σ}
    (spares : world.SparesMedia) :
    SequentialLockstep caps config board occasion conditions world := by
  constructor
  case allocation_breaks =>
    intro panic broke
    exact runSequential_exchanges_of_panic caps config board occasion conditions spares broke
  case emulated =>
    intro answer ends emulated
    obtain ⟨result, first, published, exchanges⟩ :=
      runSequential_exchanges_of_answer caps config board occasion conditions spares ends
    have no_tests : ¬ (caps.runsMediaChecks = true) := by
      simp [Capabilities.runsMediaChecks, Capabilities.isPhysical, emulated]
    have skips : runMediaPlan caps config board occasion conditions =
        Diagnosis.say (.info "skipping media checks on emulated hardware") := if_neg no_tests
    rw [skips] at result exchanges
    refine ⟨result, first, published, exchanges.trans ?_⟩
    exact List.append_nil _
  case physical =>
    intro answer ends physical readChunk targets result
    obtain ⟨same, first, published, exchanges⟩ :=
      runSequential_exchanges_of_answer caps config board occasion conditions spares ends
    have tests : caps.runsMediaChecks = true := by
      simp [Capabilities.runsMediaChecks, Capabilities.isPhysical, physical]
    have planned : config.media.targetsFor occasion = targets := by
      cases occasion <;> rfl
    have goes : runMediaPlan caps config board occasion conditions =
        runMediaFrom board occasion conditions 0 targets := by
      unfold runMediaPlan
      rw [if_pos tests, planned]
    rw [goes] at same exchanges
    have tested := runMediaFrom_exchanges board occasion conditions 0 targets
      (spares.advanceStrays (conditions.pauses 0))
    rw [← same] at tested
    refine ⟨first, _, published, exchanges, tested, tested.tested_isPrefix, ?_⟩
    rcases tested.complete_or_broken with ⟨succeeds, -, replies⟩ | ⟨before, last, panic, broken⟩
    · exact iff_of_true succeeds replies
    · obtain ⟨split, -, fails⟩ := broken
      refine iff_of_false ?_ ?_
      · intro succeeds
        have both := fails.symm.trans succeeds
        cases both
      · intro replies
        rw [split] at replies
        obtain ⟨answer, reply⟩ := replies _ (List.mem_append_right _ List.mem_cons_self)
        cases reply

/-- A medium that is configured twice answers once and then breaks off, while a cipher check that
strays around goes its way. -/
theorem sequential_phase_with_stray_and_broken_medium :
    let script : Script :=
      .reading [.ok (.ok ()), .ok (.error (.unsupported "media")), .error (.text "bus error")] 0
    let caps : Capabilities := ⟨.physical, .imx6ULL, 528000000, "i.MX6ULL"⟩
    let config : Config :=
      { allocation := { runs := 2 }, media := { targets := ["card", "stick", "card", "disk"] } }
    let conditions : Conditions := { Conditions.quiet with pauses := fun _ => [0] }
    let stray := Task.launch (cipherUnit script.board) 0 .zero
    let world : World Script.Position := ⟨script.start, [stray]⟩
    let course := runSequential caps config script.board .rerun conditions world
    world.SparesMedia ∧ SequentialLockstep caps config script.board .rerun conditions world ∧
      course.result = .error (.stepAborted "media card" "bus error") ∧
      Transcript.mediaTests course.notes =
        [(⟨"card", 10485760, 130560⟩, .ok (.ok ())),
          (⟨"stick", 10485760, 130560⟩, .ok (.error (.unsupported "media"))),
          (⟨"card", 10485760, 130560⟩, .error (.text "bus error"))] ∧
      Transcript.events course.notes =
        [.allocationStarted 2 1 167772160, .allocationCycle 1 .zero, .allocationCycle 2 .zero,
          .allocationFinished 2 .zero, .mediaTested "card" 130560 .rerun true,
          .mediaTested "stick" 130560 .rerun false] := by
  intro script caps config conditions stray world course
  have spares : world.SparesMedia := by
    intro task member
    rw [List.mem_singleton.mp member]
    apply sparesMedia_registry caps script.board fun _ => .ended [] (.ok ())
    exact List.mem_append_right _ List.mem_cons_self
  refine ⟨spares, ?_, by decide +kernel, by decide +kernel, by decide +kernel⟩
  exact sequential_phase_in_lockstep caps config script.board .rerun conditions spares

end BoardDiagnostics
