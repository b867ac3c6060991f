import BoardDiagnostics.Orchestrator
import BoardDiagnostics.Proofs.Activity

/-!
# The one reading of the identity

After its probe a run has no use for the identity of the board.  A board that would tell another
one later is run in the same way.
-/

set_option autoImplicit false

namespace BoardDiagnostics

variable {σ : Type}

section

variable (board : Board σ) (later : σ → Reply Silicon × σ) (caps : Capabilities) (config : Config)
  (occasion : Occasion) (conditions : Conditions)

/-- The concurrent phase does not ask the board what it is. -/
theorem runRegistered_with_silicon :
    runRegistered caps { board with silicon := later } conditions =
      runRegistered caps board conditions := rfl

/-- No media test asks the board what it is. -/
theorem runMediaFrom_with_silicon (number : Nat) (targets : List MediaTarget) :
    runMediaFrom { board with silicon := later } occasion conditions number targets =
      runMediaFrom board occasion conditions number targets := by
  induction targets generalizing number with
  | nil => rfl
  | cons target rest ih =>
    unfold runMediaFrom
    rw [ih]
    rfl

/-- The sequential phase does not ask the board what it is. -/
theorem runSequential_with_silicon :
    runSequential caps config { board with silicon := later } occasion conditions =
      runSequential caps config board occasion conditions := by
  unfold runSequential
  rw [runMediaFrom_with_silicon]

end

namespace Orchestrator

open Conduct

section

variable (board : Board σ) (later : σ → Reply Silicon × σ) (config : Config)

/-- The device-mode service, with all its reruns, does not ask the board what it is. -/
theorem enterDeviceMode_with_silicon (surroundings : Surroundings) (caps : Capabilities) :
    enterDeviceMode { board with silicon := later } config surroundings caps =
      enterDeviceMode board config surroundings caps := by
  unfold enterDeviceMode rerunBattery runBattery
  simp only [runSequential_with_silicon]
  rfl

/-- A run depends on the identity as it is read at the start, and on no later reading. -/
theorem conduct_with_silicon {start : σ} (same : later start = board.silicon start) (build : Build)
    (surroundings : Surroundings) :
    conduct { board with silicon := later } config build surroundings ⟨.probing, .ofBoard start⟩ =
      conduct board config build surroundings ⟨.probing, .ofBoard start⟩ := by
  have probe : Capabilities.probe { board with silicon := later } config start =
      Capabilities.probe board config start := by
    refine Activity.bind_congr ?_ fun silicon => rfl
    unfold Board.readSilicon Work.ask
    simp only [same]
  have asked : Diagnosis.onBoard (Capabilities.probe { board with silicon := later } config)
      (.ofBoard start) = Diagnosis.onBoard (Capabilities.probe board config) (.ofBoard start) := by
    simp only [Diagnosis.onBoard, Activity.within, Activity.mapNotes, Activity.attempt,
      World.ofBoard, probe]
  have probed : probeBoard { board with silicon := later } config surroundings.probeTask
      ⟨.probing, .ofBoard start⟩ =
        probeBoard board config surroundings.probeTask ⟨.probing, .ofBoard start⟩ := by
    refine Activity.bind_congr ?_ fun reply => rfl
    simp only [inWorld, Activity.within, asked]
  unfold conduct
  refine Activity.bind_congr rfl fun _ => Activity.bind_congr probed fun caps => ?_
  simp only [runRegistered_with_silicon, runSequential_with_silicon, enterDeviceMode_with_silicon]

end

end Orchestrator

end BoardDiagnostics
