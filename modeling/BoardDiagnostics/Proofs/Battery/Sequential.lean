import BoardDiagnostics.Battery.Basic
import BoardDiagnostics.Proofs.Battery.Allocation
import BoardDiagnostics.Proofs.Battery.Media
import BoardDiagnostics.Proofs.Phase.Trace

/-!
# Batteries

A sequential phase is the allocation step and then the media, and a battery is a concurrent phase
and then a sequential one.  What each of them publishes is put together from what its parts
publish; where a part fails, nothing of the next part is published.
-/

set_option autoImplicit false

namespace BoardDiagnostics

variable {σ : Type}

/-- The names of the units for some hardware, in launch order. -/
def Capabilities.unitNames (caps : Capabilities) : List String :=
  ["fs", "timer", "sleep", "rng", "ecdsa", "btc"] ++
    if caps.hasHardwareCipher then ["dcp"] else []

/-- The units of a battery have the names that its capabilities call for. -/
theorem map_name_registry (caps : Capabilities) (board : Board σ) (runs : HostCheck → CheckRun) :
    (registry caps board runs).map CheckUnit.name = caps.unitNames := by
  unfold registry Capabilities.unitNames
  split <;> rfl

/-- The media that a sequential phase tests: none on emulated hardware. -/
def mediaPlan (caps : Capabilities) (config : Config) (occasion : Occasion) : List MediaTarget :=
  if caps.runsMediaChecks then config.media.targetsFor occasion else []

section

variable (caps : Capabilities) (config : Config) (occasion : Occasion) (conditions : Conditions)

/-- What a sequential phase publishes, by its result. -/
inductive SequentialTrace : Except Fault Unit → List Event → Prop where
  | allocation {fault : Fault} {events : List Event}
      (broken : AllocationTrace (conditions.allocation config.allocation) conditions (.error fault) events) :
      SequentialTrace (.error fault) events
  | media {result : Except Fault Unit} {first rest : List Event}
      (finished : AllocationTrace (conditions.allocation config.allocation) conditions (.ok ()) first)
      (tested : MediaTrace occasion (mediaPlan caps config occasion) result rest) :
      SequentialTrace result (first ++ rest)

/-- What a battery publishes, by its result. -/
inductive BatteryTrace : Except Fault Unit → List Event → Prop where
  | concurrent {fault : Fault} {events : List Event}
      (aborted : ConcurrentTrace caps.unitNames conditions.phaseTimes.phase (.error fault) events) :
      BatteryTrace (.error fault) events
  | sequential {result : Except Fault Unit} {units : Nat} {first rest : List Event}
      (released : ConcurrentTrace caps.unitNames conditions.phaseTimes.phase (.ok units) first)
      (went : SequentialTrace caps config occasion conditions result rest) :
      BatteryTrace result (first ++ rest)

end

section

variable (caps : Capabilities) (config : Config) (board : Board σ) (occasion : Occasion)
  (conditions : Conditions)

/-- The media part of a sequential phase. -/
def runMediaPlan : Diagnosis σ Unit :=
  if caps.runsMediaChecks then
    runMediaFrom board occasion conditions 0 (config.media.targetsFor occasion)
  else Diagnosis.say (.info "skipping media checks on emulated hardware")

/-- The media that the capabilities call for publish a word of their law. -/
theorem runMediaPlan_trace (world : World σ) :
    MediaTrace occasion (mediaPlan caps config occasion)
      (runMediaPlan caps config board occasion conditions world).result
      (Transcript.events (runMediaPlan caps config board occasion conditions world).notes) := by
  unfold runMediaPlan mediaPlan
  split
  · exact runMediaFrom_trace board occasion conditions 0 _ world
  · exact .done

variable {world : World σ}

/-- In a world without strays, the first test that breaks off is the fault of the plan, behind the
tests of the media before it. -/
theorem runMediaPlan_of_breaks {before : List MediaTarget} {target : MediaTarget} {panic : Panic}
    (calm : world.strays = [])
    (breaks : MediaBreaks board world.board (mediaPlan caps config occasion) before target panic) :
    (runMediaPlan caps config board occasion conditions world).result =
        .error (brokenOff ("media " ++ target.identifier) panic) ∧
      MediaTrace occasion before (.ok ())
        (Transcript.events (runMediaPlan caps config board occasion conditions world).notes) := by
  unfold runMediaPlan
  unfold mediaPlan at breaks
  split at breaks
  · next tests =>
    rw [if_pos tests]
    exact runMediaFrom_of_breaks board occasion conditions calm breaks
  · cases breaks

/-- In a world without strays, a plan fails only because one of its tests breaks off. -/
theorem exists_breaks_of_runMediaPlan {fault : Fault} (calm : world.strays = [])
    (fails : (runMediaPlan caps config board occasion conditions world).result = .error fault) :
    ∃ before target panic,
      MediaBreaks board world.board (mediaPlan caps config occasion) before target panic ∧
        fault = brokenOff ("media " ++ target.identifier) panic := by
  unfold runMediaPlan at fails
  unfold mediaPlan
  split at fails
  · next tests =>
    rw [if_pos tests]
    exact exists_breaks_of_runMediaFrom board occasion conditions calm fails
  · cases fails

/-! ### The sequential phase -/

/-- The sequential phase pauses, runs its allocation step and follows its plan of media. -/
theorem runSequential_apply :
    runSequential caps config board occasion conditions world =
      (Diagnosis.pause (conditions.pauses 0) >>= fun _ =>
        runAllocation config.allocation conditions >>= fun _ =>
          runMediaPlan caps config board occasion conditions) world := rfl

/-- A stress that breaks off ends the phase. -/
theorem runSequential_of_panic {panic : Panic}
    (broke : ((conditions.allocation config.allocation).stress conditions.memory).2 =
      .error panic) :
    (runSequential caps config board occasion conditions world).result =
        .error (brokenOff "alloc" panic) ∧
      AllocationTrace (conditions.allocation config.allocation) conditions
        (.error (brokenOff "alloc" panic))
        (Transcript.events
          (runSequential caps config board occasion conditions world).notes) := by
  obtain ⟨fails, published⟩ := runAllocation_of_panic config.allocation conditions
    (world.advanceStrays (conditions.pauses 0)).1 broke
  rw [runSequential_apply, Diagnosis.pause_bind_apply, Activity.bind_of_error fails]
  refine ⟨rfl, ?_⟩
  rwa [Transcript.events_append, World.events_advanceStrays]

/-- A stress that ends at all leaves the phase to its plan of media, in the world that the pause
left. -/
theorem runSequential_of_answer {answer : CheckResult} {paused : World σ}
    (ends : ((conditions.allocation config.allocation).stress conditions.memory).2 = .ok answer)
    (pauses : (world.advanceStrays (conditions.pauses 0)).1 = paused) :
    ∃ first, AllocationTrace (conditions.allocation config.allocation) conditions (.ok ()) first ∧
      (runSequential caps config board occasion conditions world).result =
        (runMediaPlan caps config board occasion conditions paused).result ∧
      Transcript.events (runSequential caps config board occasion conditions world).notes =
        first ++ Transcript.events
          (runMediaPlan caps config board occasion conditions paused).notes := by
  obtain ⟨goes, state, published⟩ :=
    runAllocation_of_answer config.allocation conditions paused ends
  refine ⟨_, published, ?_⟩
  rw [runSequential_apply, Diagnosis.pause_bind_apply, pauses, Activity.bind_of_ok goes, state]
  refine ⟨rfl, ?_⟩
  rw [Transcript.events_append, World.events_advanceStrays, List.nil_append,
    Transcript.events_append]

/-- The sequential phase publishes a word of its law, whatever the board does. -/
theorem runSequential_trace (world : World σ) :
    SequentialTrace caps config occasion conditions
      (runSequential caps config board occasion conditions world).result
      (Transcript.events (runSequential caps config board occasion conditions world).notes) := by
  rcases ends : ((conditions.allocation config.allocation).stress conditions.memory).2
    with panic | answer
  · obtain ⟨fails, published⟩ :=
      runSequential_of_panic caps config board occasion conditions ends
    rw [fails]
    exact .allocation published
  · obtain ⟨first, allocated, result, published⟩ :=
      runSequential_of_answer caps config board occasion conditions ends rfl
    rw [result, published]
    exact .media allocated (runMediaPlan_trace caps config board occasion conditions _)

/-! ### The battery -/

/-- The concurrent phase of a battery publishes a word of its law, whoever goes on when. -/
theorem runRegistered_trace (world : World σ) :
    ConcurrentTrace caps.unitNames conditions.phaseTimes.phase
      (runRegistered caps board conditions world).result
      (Transcript.events (runRegistered caps board conditions world).notes) := by
  have trace := runConcurrent_trace (registry caps board conditions.hostChecks)
    conditions.schedule conditions.phaseTimes world
  rwa [map_name_registry] at trace

/-- A battery publishes the word of its concurrent phase and, if that is released, of its sequential
phase. -/
theorem runBattery_trace (world : World σ) :
    BatteryTrace caps config occasion conditions
      (runBattery caps config board occasion conditions world).result
      (Transcript.events (runBattery caps config board occasion conditions world).notes) := by
  have units := runRegistered_trace caps board conditions world
  unfold runBattery
  rcases ends : (runRegistered caps board conditions world).result with fault | launched
  · rw [ends] at units
    rw [Activity.bind_of_error ends]
    exact .concurrent units
  · rw [ends] at units
    rw [Activity.bind_of_ok ends, Transcript.events_append]
    exact .sequential units (runSequential_trace caps config board occasion conditions _)

end

end BoardDiagnostics
