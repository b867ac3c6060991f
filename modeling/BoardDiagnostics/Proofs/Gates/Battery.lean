import BoardDiagnostics.Battery.Basic
import BoardDiagnostics.Proofs.Gates.Permission
import BoardDiagnostics.Proofs.Battery.Allocation
import BoardDiagnostics.Proofs.Phase.Account

/-!
# Batteries keep within the gates

Every step of a task, of a stray and of a phase keeps the count of calls to the cipher that are
owed, and makes no call that is not permitted.  A battery adds at most one call to those that are
owed when it begins.
-/

set_option autoImplicit false

namespace BoardDiagnostics

variable {σ α β : Type} {caps : Capabilities}

/-! ### Tasks and strays -/

/-- A step of a gated task makes permitted calls only, and a task that calls the cipher no longer
owes the call. -/
theorem Task.within_advance {task : Task σ} (gated : task.unit.Gated caps) (board : σ) :
    WithinGates caps (if task.owesCipher then 1 else 0)
      ((task.advance board).notes.map .note)
      (if (task.advance board).task.owesCipher then 1 else 0) := by
  rcases task with ⟨unit, signaller, elapsed, progress⟩
  cases progress with
  | queued => exact .silent rfl
  | begun =>
    have calls : Transcript.calls (((unit.body board).notes.map Note.ofUnit).map Entry.note) =
        Note.calls (unit.body board).notes := Note.calls_map_ofUnit _
    refine ⟨fun call member => ?_, ?_⟩
    · exact gated.permitted board call (calls ▸ member)
    · have once := gated.cipher board
      show (Transcript.calls (((unit.body board).notes.map Note.ofUnit).map Entry.note)).countP
        Call.isEncrypt + 0 ≤ if unit.isCipher then 1 else 0
      rw [calls]
      exact once
  | ended outcome =>
    refine .silent ?_
    show Note.calls (List.map (Note.line ∘ Line.ofUnit) _) = []
    rw [← List.map_map]
    exact Note.calls_map_line _
  | reported outcome => exact .silent rfl
  | signalled => exact .silent rfl

/-- Replacing a task changes the calls owed by the difference between the two. -/
theorem countP_owesCipher_set {tasks : List (Task σ)} {n : Nat} {task : Task σ}
    (here : tasks[n]? = some task) (after : Task σ) :
    (tasks.set n after).countP Task.owesCipher + (if task.owesCipher then 1 else 0) =
      tasks.countP Task.owesCipher + if after.owesCipher then 1 else 0 := by
  obtain ⟨within, same⟩ := List.getElem?_eq_some_iff.mp here
  rw [List.countP_set within, same]
  have counted : (if task.owesCipher then 1 else 0) ≤ tasks.countP Task.owesCipher := by
    split
    · next owes => exact List.countP_pos_iff.mpr ⟨task, same ▸ List.getElem_mem within, owes⟩
    · exact Nat.zero_le _
  omega

/-- Tasks stay gated when one is replaced by a later stage of itself. -/
theorem gated_set {tasks : List (Task σ)} (gated : ∀ task ∈ tasks, task.unit.Gated caps) {n : Nat}
    {task : Task σ} (here : tasks[n]? = some task) {after : Task σ} (same : after.unit = task.unit) :
    ∀ other ∈ tasks.set n after, other.unit.Gated caps := by
  intro other member
  rcases List.mem_or_eq_of_mem_set member with old | rfl
  · exact gated other old
  · rw [same]
    exact gated task (List.mem_of_getElem? here)

/-- A step of one of some tasks pays for its own calls. -/
theorem within_set {tasks : List (Task σ)} (gated : ∀ task ∈ tasks, task.unit.Gated caps) {n : Nat}
    {task : Task σ} (here : tasks[n]? = some task) (board : σ) :
    WithinGates caps (tasks.countP Task.owesCipher) ((task.advance board).notes.map .note)
      ((tasks.set n (task.advance board).task).countP Task.owesCipher) := by
  have step := Task.within_advance (gated task (List.mem_of_getElem? here)) board
  have moved := countP_owesCipher_set here (task.advance board).task
  have paid := step.cipher
  exact ⟨step.permitted, by omega⟩

namespace World

/-- A step of a stray keeps a gated world within its gates. -/
theorem within_advanceStray {world : World σ} (gated : world.Gated caps) (n : Nat) :
    (world.advanceStray n).1.Gated caps ∧
      WithinGates caps world.owed (world.advanceStray n).2 (world.advanceStray n).1.owed := by
  unfold advanceStray
  split
  · exact ⟨gated, .silent rfl⟩
  · next task here => exact ⟨gated_set gated here (Task.unit_advance task _), within_set gated here _⟩

/-- Any steps of strays, in any order, keep a gated world within its gates. -/
theorem within_advanceStrays {world : World σ} (gated : world.Gated caps) (numbers : List Nat) :
    (world.advanceStrays numbers).1.Gated caps ∧
      WithinGates caps world.owed (world.advanceStrays numbers).2
        (world.advanceStrays numbers).1.owed := by
  induction numbers generalizing world with
  | nil => exact ⟨gated, .silent rfl⟩
  | cons n rest ih =>
    obtain ⟨between, first⟩ := within_advanceStray gated n
    obtain ⟨after, more⟩ := ih between
    rw [advanceStrays_cons]
    exact ⟨after, first.append more⟩

end World

/-! ### Diagnoses -/

/-- From a world with strays of such batteries, a diagnosis leads to another one and stays within
the gates, with so many calls to the cipher of its own. -/
def Diagnosis.Keeps (caps : Capabilities) (own : Nat) (diagnosis : Diagnosis σ α) : Prop :=
  ∀ world : World σ, world.Gated caps →
    (diagnosis world).state.Gated caps ∧
      WithinGates caps (world.owed + own) (diagnosis world).notes (diagnosis world).state.owed

namespace Diagnosis

/-- A sequence keeps within the gates if its parts do and what comes behind owes nothing of its own.
-/
theorem Keeps.bind {own : Nat} {first : Diagnosis σ α} {next : α → Diagnosis σ β}
    (before : Keeps caps own first) (after : ∀ a, Keeps caps 0 (next a)) :
    Keeps caps own (first >>= next) := by
  intro world gated
  obtain ⟨between, within⟩ := before world gated
  rcases ends : (first world).result with fault | a
  · rw [Activity.bind_of_error ends]
    exact ⟨between, within⟩
  · obtain ⟨last, rest⟩ := after a _ between
    rw [Activity.bind_of_ok ends]
    exact ⟨last, within.append rest⟩

/-- A diagnosis that leaves the world alone and makes no call. -/
theorem Keeps.of_silent {diagnosis : Diagnosis σ α}
    (stays : ∀ world, (diagnosis world).state = world)
    (silent : ∀ world, Transcript.calls (diagnosis world).notes = []) :
    Keeps caps 0 diagnosis := by
  intro world gated
  rw [stays world]
  exact ⟨gated, .silent (silent world)⟩

/-- Strays at work during a pause stay within the gates. -/
theorem keeps_pause (numbers : List Nat) : Keeps caps 0 (pause numbers : Diagnosis σ Unit) :=
  fun _ gated => World.within_advanceStrays gated numbers

/-- Notes without a call owe nothing. -/
theorem keeps_noteAll {entries : Transcript} (silent : Transcript.calls entries = []) :
    Keeps caps 0 (Activity.noteAll entries : Diagnosis σ Unit) :=
  .of_silent (fun _ => rfl) fun _ => silent

/-- A printed line owes nothing. -/
theorem keeps_say (line : Line) : Keeps caps 0 (say line : Diagnosis σ Unit) :=
  .of_silent (fun _ => rfl) fun _ => rfl

/-- A published event owes nothing. -/
theorem keeps_publish (event : Event) : Keeps caps 0 (publish event : Diagnosis σ Unit) :=
  .of_silent (fun _ => rfl) fun _ => rfl

/-- A failure owes nothing. -/
theorem keeps_fail (fault : Fault) : Keeps caps 0 (Activity.fail fault : Diagnosis σ α) :=
  .of_silent (fun _ => rfl) fun _ => rfl

end Diagnosis

/-! ### The concurrent phase -/

namespace Phase

/-- The units that a phase has yet to launch. -/
def toLaunch (phase : Phase σ) : List (CheckUnit σ) :=
  match phase.runner with
  | .launching rest => rest
  | .draining | .returned _ => []

/-- A phase of such units, in a world with strays of such batteries. -/
structure Gated (caps : Capabilities) (phase : Phase σ) : Prop where
  world : phase.world.Gated caps
  tasks : ∀ task ∈ phase.tasks, task.unit.Gated caps
  toLaunch : ∀ unit ∈ phase.toLaunch, unit.Gated caps

/-- How many calls to the cipher are still owed: by strays, by launched units and by units that are
yet to be launched. -/
def owed (phase : Phase σ) : Nat :=
  phase.world.owed + phase.tasks.countP Task.owesCipher + phase.toLaunch.countP CheckUnit.isCipher

variable {phase : Phase σ}

/-- The runner may turn to something else than a launch. -/
theorem within_withRunner (gated : phase.Gated caps) {runner : Runner σ} {barrier : Barrier}
    (idle : ∀ rest, runner = .launching rest → rest = []) {notes : Transcript}
    (silent : Transcript.calls notes = []) :
    ({ phase with runner := runner, barrier := barrier } : Phase σ).Gated caps ∧
      WithinGates caps phase.owed notes
        ({ phase with runner := runner, barrier := barrier } : Phase σ).owed := by
  have none_left : ({ phase with runner := runner, barrier := barrier } : Phase σ).toLaunch = [] := by
    cases runner with
    | launching rest => exact idle rest rfl
    | draining | returned => rfl
  refine ⟨⟨gated.world, gated.tasks, by simp [none_left]⟩, ?_⟩
  have less : ({ phase with runner := runner, barrier := barrier } : Phase σ).owed ≤ phase.owed := by
    unfold owed
    rw [none_left, List.countP_nil]
    exact Nat.add_le_add_left (Nat.zero_le _) _
  exact (WithinGates.silent silent).weaken (Nat.le_refl _) less

/-- A launch turns the calls owed by a unit into those owed by its task. -/
theorem within_launch (gated : phase.Gated caps) {unit : CheckUnit σ} {rest : List (CheckUnit σ)}
    (launching : phase.runner = .launching (unit :: rest)) (signaller : Nat) (elapsed : Duration)
    (barrier : Barrier) :
    let after : Phase σ := { phase with
      tasks := phase.tasks ++ [Task.launch unit signaller elapsed]
      runner := .launching rest, barrier := barrier }
    after.Gated caps ∧ WithinGates caps phase.owed [.event (.unitLaunched unit.name)] after.owed := by
  intro after
  have units : phase.toLaunch = unit :: rest := by simp only [toLaunch, launching]
  have all := gated.toLaunch
  rw [units] at all
  refine ⟨⟨gated.world, fun task member => ?_, fun other member => ?_⟩, ?_⟩
  · rcases List.mem_append.mp member with old | new
    · exact gated.tasks task old
    · rw [List.mem_singleton.mp new]
      exact all unit List.mem_cons_self
  · exact all other (List.mem_cons_of_mem _ member)
  -- What was owed by a unit to launch is now owed by its task.
  · have same : after.owed = phase.owed := by
      show phase.world.owed + (phase.tasks ++ [_]).countP Task.owesCipher +
        rest.countP CheckUnit.isCipher = _
      unfold owed
      rw [units, List.countP_append, List.countP_cons, List.countP_cons, List.countP_nil]
      show _ + (_ + (0 + if unit.isCipher then 1 else 0)) + _ = _
      omega
    rw [same]
    exact .silent rfl

/-- Whatever the runner does next stays within the gates. -/
theorem within_stepRunner (times : PhaseTimes) (gated : phase.Gated caps) :
    (phase.stepRunner times).1.Gated caps ∧
      WithinGates caps phase.owed (phase.stepRunner times).2 (phase.stepRunner times).1.owed := by
  unfold stepRunner
  split
  · exact within_withRunner gated (fun _ same => by cases same) rfl
  · next unit rest launching =>
    split
    · exact within_launch gated launching _ _ _
    · exact within_withRunner gated (fun _ same => (Runner.launching.inj same).symm) rfl
  · split
    · refine within_withRunner gated (fun _ same => by cases same) ?_
      rw [Transcript.calls_append, Transcript.calls_map_line]
      rfl
    · next signal _ _ =>
      refine within_withRunner gated (fun rest same => ?_) rfl
      unfold afterSignal at same
      split at same <;> cases same
    · exact within_withRunner gated (fun _ same => by cases same) rfl
    · next draining _ _ _ =>
      exact within_withRunner gated (fun rest same => by rw [draining] at same; cases same) rfl
  · exact ⟨gated, .silent rfl⟩

/-- Whatever a launched unit does next stays within the gates. -/
theorem within_stepUnit (gated : phase.Gated caps) (n : Nat) :
    (phase.stepUnit n).1.Gated caps ∧
      WithinGates caps phase.owed (phase.stepUnit n).2 (phase.stepUnit n).1.owed := by
  unfold stepUnit
  split
  · exact ⟨gated, .silent rfl⟩
  · next task here =>
    have within := within_set gated.tasks here phase.world.board
    refine ⟨⟨gated.world, ?_, gated.toLaunch⟩, within.permitted, ?_⟩
    · exact gated_set gated.tasks here (Task.unit_advance task _)
    · have paid := within.cipher
      show Transcript.ciphers ((task.advance phase.world.board).notes.map .note) +
        (phase.world.owed + (phase.tasks.set n _).countP Task.owesCipher +
          phase.toLaunch.countP CheckUnit.isCipher) ≤ phase.owed
      unfold owed
      omega

/-- Whatever a stray does next stays within the gates. -/
theorem within_stepStray (gated : phase.Gated caps) (n : Nat) :
    (phase.stepStray n).1.Gated caps ∧
      WithinGates caps phase.owed (phase.stepStray n).2 (phase.stepStray n).1.owed := by
  obtain ⟨world, within⟩ := World.within_advanceStray gated.world n
  refine ⟨⟨world, gated.tasks, gated.toLaunch⟩, within.permitted, ?_⟩
  have paid := within.cipher
  show (phase.world.advanceStray n).2.ciphers + ((phase.world.advanceStray n).1.owed +
    phase.tasks.countP Task.owesCipher + phase.toLaunch.countP CheckUnit.isCipher) ≤ phase.owed
  unfold owed
  omega

/-- Every step of a phase stays within the gates, whoever takes it. -/
theorem within_step (times : PhaseTimes) (gated : phase.Gated caps) (pick : Pick) :
    (phase.step times pick).1.Gated caps ∧
      WithinGates caps phase.owed (phase.step times pick).2 (phase.step times pick).1.owed := by
  cases pick with
  | runner => exact within_stepRunner times gated
  | unit n => exact within_stepUnit gated n
  | stray n => exact within_stepStray gated n

/-- By induction on the schedule, so does a whole phase. -/
theorem within_run (times : PhaseTimes) (gated : phase.Gated caps) (picks : List Pick) :
    (phase.run times picks).1.Gated caps ∧
      WithinGates caps phase.owed (phase.run times picks).2 (phase.run times picks).1.owed := by
  induction picks generalizing phase with
  | nil => exact ⟨gated, .silent rfl⟩
  | cons pick picks ih =>
    cases returned : phase.result? with
    | some result =>
      rw [run_of_returned returned]
      exact ⟨gated, .silent rfl⟩
    | none =>
      obtain ⟨between, first⟩ := within_step times gated pick
      obtain ⟨after, more⟩ := ih between
      rw [run_cons returned]
      exact ⟨after, first.append more⟩

end Phase

/-- A concurrent phase owes as many calls to the cipher as it has cipher units. -/
theorem keeps_runConcurrent {units : List (CheckUnit σ)} (gated : ∀ unit ∈ units, unit.Gated caps)
    (schedule : List Pick) (times : PhaseTimes) :
    Diagnosis.Keeps caps (units.countP CheckUnit.isCipher) (runConcurrent units schedule times) := by
  intro world strays
  have start : (Phase.start units world).Gated caps := ⟨strays, by simp [Phase.start], gated⟩
  obtain ⟨after, within⟩ := Phase.within_run times start (schedule ++ Phase.finishing units.length)
  let phase := ((Phase.start units world).run times (schedule ++ Phase.finishing units.length)).1
  -- Tasks that have not ended stray on with what they owe.
  have left : (phase.world.strays ++ phase.leftover).countP Task.owesCipher ≤ phase.owed := by
    have some_of_them : phase.leftover.countP Task.owesCipher ≤ phase.tasks.countP Task.owesCipher :=
      List.filter_sublist.countP_le
    unfold Phase.owed World.owed
    rw [List.countP_append]
    omega
  refine ⟨fun task member => ?_, within.permitted, ?_⟩
  · rcases List.mem_append.mp member with old | new
    · exact after.world task old
    · exact after.tasks task (List.mem_of_mem_filter new)
  · have paid := within.cipher
    have begin : (Phase.start units world).owed = world.owed + units.countP CheckUnit.isCipher := by
      show world.owed + 0 + _ = _
      rw [Nat.add_zero]
      rfl
    rw [begin] at paid
    exact Nat.le_trans (Nat.add_le_add_left left _) paid

/-! ### The battery -/

section

variable (board : Board σ) (config : Config) (occasion : Occasion) (conditions : Conditions)

open Diagnosis

/-- The registered units owe one call to the cipher at most. -/
theorem keeps_runRegistered : Keeps caps 1 (runRegistered caps board conditions) := by
  intro world gated
  obtain ⟨after, within⟩ := keeps_runConcurrent
    (gated_registry caps board conditions.hostChecks) conditions.schedule conditions.phaseTimes
    world gated
  have once := countP_isCipher_registry caps board conditions.hostChecks
  exact ⟨after, within.weaken (Nat.add_le_add_left once _) (Nat.le_refl _)⟩

/-- The allocation step calls nothing of the board. -/
theorem keeps_runStress (spec : AllocationSpec) :
    Keeps caps 0 (runStress spec conditions : Diagnosis σ Unit) := by
  unfold runStress
  refine (keeps_noteAll rfl).bind fun _ => ?_
  refine (keeps_noteAll (calls_flatMap_runEntries spec _ _)).bind fun _ => ?_
  split
  · exact keeps_fail _
  · exact (keeps_say _).bind fun _ => keeps_noteAll rfl
  · exact keeps_noteAll rfl

/-- A media test calls for its own target only, and is permitted on hardware. -/
theorem keeps_runMedia (physical : caps.runsMediaChecks = true) (target : MediaTarget)
    (elapsed : Duration) : Keeps caps 0 (runMedia board occasion target elapsed) := by
  have asks : Keeps caps 0 (onBoard (board.readMedia target)) := by
    intro world gated
    refine ⟨gated, fun call member => ?_, ?_⟩
    · rw [List.mem_singleton.mp member]
      exact physical
    · show 0 + world.owed ≤ world.owed + 0
      omega
  unfold runMedia
  refine (keeps_say _).bind fun _ => asks.bind fun reply => ?_
  split
  · exact keeps_fail _
  · exact (keeps_say _).bind fun _ => keeps_publish _
  · exact (keeps_say _).bind fun _ => keeps_publish _

/-- The tests of all targets stay within the gates of hardware. -/
theorem keeps_runMediaFrom (physical : caps.runsMediaChecks = true) (number : Nat)
    (targets : List MediaTarget) :
    Keeps caps 0 (runMediaFrom board occasion conditions number targets) := by
  induction targets generalizing number with
  | nil => exact .of_silent (fun _ => rfl) fun _ => rfl
  | cons target rest ih =>
    unfold runMediaFrom
    refine (keeps_pause _).bind fun _ => ?_
    exact (keeps_runMedia board occasion physical target _).bind fun _ => ih _

/-- The sequential phase tests media on hardware only, and never calls the cipher. -/
theorem keeps_runSequential : Keeps caps 0 (runSequential caps config board occasion conditions) := by
  unfold runSequential
  refine (keeps_pause _).bind fun _ => (keeps_runStress conditions _).bind fun _ => ?_
  split
  · next physical => exact keeps_runMediaFrom board occasion conditions physical 0 _
  · exact keeps_say _

/-- A battery keeps within its gates and calls the cipher once at most, whatever strays owe besides.
-/
theorem keeps_runBattery : Keeps caps 1 (runBattery caps config board occasion conditions) := by
  unfold runBattery
  exact (keeps_runRegistered board conditions).bind fun _ =>
    keeps_runSequential board config occasion conditions

end

end BoardDiagnostics
