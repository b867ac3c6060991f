import BoardDiagnostics.Proofs.Battery.Sequential

/-!
# Who strays around a battery

A battery changes how far the strays around it have come, and it may leave units of its own at work.
Nobody else joins the strays, and nobody leaves them, so a stray is known by its place among them.
-/

set_option autoImplicit false

namespace BoardDiagnostics

variable {σ α β : Type}

/-- Nobody joins the strays, and nobody leaves them. -/
def Diagnosis.KeepsStrays (diagnosis : Diagnosis σ α) : Prop :=
  ∀ world : World σ, (diagnosis world).state.strays.map Task.unit = world.strays.map Task.unit

namespace Diagnosis

/-- What keeps the strays may follow one another. -/
theorem KeepsStrays.bind {first : Diagnosis σ α} {next : α → Diagnosis σ β}
    (before : KeepsStrays first) (after : ∀ a, KeepsStrays (next a)) :
    KeepsStrays (first >>= next) := by
  intro world
  rcases ends : (first world).result with fault | a
  · rw [Activity.bind_of_error ends]
    exact before world
  · rw [Activity.bind_of_ok ends]
    exact (after a _).trans (before world)

/-- What does not touch the strays keeps them. -/
theorem KeepsStrays.of_same {diagnosis : Diagnosis σ α}
    (same : ∀ world, (diagnosis world).state.strays = world.strays) : KeepsStrays diagnosis :=
  fun world => congrArg _ (same world)

/-- A pause lets strays go on, and they keep their units. -/
theorem keepsStrays_pause (numbers : List Nat) :
    KeepsStrays (pause numbers : Diagnosis σ Unit) :=
  fun world => world.map_unit_advanceStrays numbers

/-- Noting keeps the strays. -/
theorem keepsStrays_noteAll (entries : Transcript) :
    KeepsStrays (Activity.noteAll entries : Diagnosis σ Unit) := .of_same fun _ => rfl

/-- Writing a line keeps the strays. -/
theorem keepsStrays_say (line : Line) : KeepsStrays (say line : Diagnosis σ Unit) :=
  .of_same fun _ => rfl

/-- Publishing an event keeps the strays. -/
theorem keepsStrays_publish (event : Event) :
    KeepsStrays (publish event : Diagnosis σ Unit) := .of_same fun _ => rfl

/-- Failing keeps the strays. -/
theorem keepsStrays_fail (fault : Fault) :
    KeepsStrays (Activity.fail fault : Diagnosis σ α) := .of_same fun _ => rfl

/-- Work on the board keeps the strays. -/
theorem keepsStrays_onBoard (work : Work σ α) : KeepsStrays (onBoard work) :=
  .of_same fun _ => rfl

end Diagnosis

section

variable (caps : Capabilities) (config : Config) (board : Board σ) (occasion : Occasion)
  (conditions : Conditions)

open Diagnosis

/-- The allocation stress keeps the strays. -/
theorem keepsStrays_runStress (spec : AllocationSpec) :
    KeepsStrays (runStress spec conditions : Diagnosis σ Unit) := by
  unfold runStress
  refine (keepsStrays_noteAll _).bind fun _ => (keepsStrays_noteAll _).bind fun _ => ?_
  split
  · exact keepsStrays_fail _
  · exact (keepsStrays_say _).bind fun _ => keepsStrays_noteAll _
  · exact keepsStrays_noteAll _

/-- The test of a medium keeps the strays. -/
theorem keepsStrays_runMedia (target : MediaTarget) (elapsed : Duration) :
    KeepsStrays (runMedia board occasion target elapsed) := by
  unfold runMedia
  refine (keepsStrays_say _).bind fun _ => (keepsStrays_onBoard _).bind fun reply => ?_
  split
  · exact keepsStrays_fail _
  · exact (keepsStrays_say _).bind fun _ => keepsStrays_publish _
  · exact (keepsStrays_say _).bind fun _ => keepsStrays_publish _

/-- Tests of media keep the strays, pauses included. -/
theorem keepsStrays_runMediaFrom (number : Nat) (targets : List MediaTarget) :
    KeepsStrays (runMediaFrom board occasion conditions number targets) := by
  induction targets generalizing number with
  | nil => exact .of_same fun _ => rfl
  | cons target rest ih =>
    unfold runMediaFrom
    exact (keepsStrays_pause _).bind fun _ =>
      (keepsStrays_runMedia board occasion target _).bind fun _ => ih (number + 1)

/-- The sequential phase keeps the strays. -/
theorem keepsStrays_runSequential :
    KeepsStrays (runSequential caps config board occasion conditions) := by
  unfold runSequential
  refine (keepsStrays_pause _).bind fun _ => (keepsStrays_runStress conditions _).bind fun _ => ?_
  split
  · exact keepsStrays_runMediaFrom board occasion conditions 0 _
  · exact keepsStrays_say _

/-- A concurrent phase adds units of its own to those that stray around. -/
theorem map_unit_strays_runConcurrent (units : List (CheckUnit σ)) (schedule : List Pick)
    (times : PhaseTimes) (world : World σ) :
    ∃ late, (runConcurrent units schedule times world).state.strays.map Task.unit =
        world.strays.map Task.unit ++ late ∧ ∀ unit ∈ late, unit ∈ units := by
  have account := Phase.account_final units times schedule world
  have kept := Phase.map_unit_strays_run times (Phase.start units world)
    (schedule ++ Phase.finishing units.length)
  refine ⟨(Phase.final units schedule times world).leftover.map Task.unit, ?_, ?_⟩
  · show ((Phase.final units schedule times world).world.strays ++
      (Phase.final units schedule times world).leftover).map Task.unit = _
    rw [List.map_append]
    exact congrArg (· ++ _) kept
  · intro unit member
    obtain ⟨task, left, rfl⟩ := List.mem_map.mp member
    obtain ⟨n, launched⟩ := List.mem_iff_getElem?.mp (List.mem_of_mem_filter left)
    exact List.mem_of_getElem? (account.unit_of_launched launched)

/-! ### The battery -/

variable {world : World σ}

/-- A battery whose concurrent phase fails ends there. -/
theorem runBattery_of_error {fault : Fault}
    (fails : (runRegistered caps board conditions world).result = .error fault) :
    runBattery caps config board occasion conditions world =
      ⟨.error fault, (runRegistered caps board conditions world).state,
        (runRegistered caps board conditions world).notes⟩ := by
  unfold runBattery
  exact Activity.bind_of_error fails _

/-- A battery whose concurrent phase is released goes on with the sequential one. -/
theorem runBattery_of_ok {count : Nat}
    (released : (runRegistered caps board conditions world).result = .ok count) :
    let between := (runRegistered caps board conditions world).state
    runBattery caps config board occasion conditions world =
      ⟨(runSequential caps config board occasion conditions between).result,
        (runSequential caps config board occasion conditions between).state,
        (runRegistered caps board conditions world).notes ++
          (runSequential caps config board occasion conditions between).notes⟩ := by
  intro between
  unfold runBattery
  exact Activity.bind_of_ok released _

/-- A battery adds only units of its own to the strays, behind those that there are. -/
theorem map_unit_strays_runBattery (world : World σ) :
    ∃ late, (runBattery caps config board occasion conditions world).state.strays.map Task.unit =
        world.strays.map Task.unit ++ late ∧
      ∀ unit ∈ late, unit ∈ registry caps board conditions.hostChecks := by
  obtain ⟨late, strays, own⟩ := map_unit_strays_runConcurrent
    (registry caps board conditions.hostChecks) conditions.schedule conditions.phaseTimes world
  refine ⟨late, ?_, own⟩
  rcases ends : (runRegistered caps board conditions world).result with fault | count
  · rw [runBattery_of_error caps config board occasion conditions ends]
    exact strays
  · rw [runBattery_of_ok caps config board occasion conditions ends]
    exact (keepsStrays_runSequential caps config board occasion conditions _).trans strays

end

end BoardDiagnostics
