import BoardDiagnostics.Proofs.Phase.Steps
import Mathlib.Data.List.Flatten

/-!
# Every phase returns

However far a schedule has taken a phase, the finishing schedule takes it to its return, in three
stages: the runner launches what is left, every unit goes through the steps that it has left, and
the runner receives every signal (`Phase.returns`).
-/

set_option autoImplicit false

namespace BoardDiagnostics

variable {σ : Type} {units : List (CheckUnit σ)} {times : PhaseTimes}

/-- How many steps a task has left. -/
def Task.stepsLeft (task : Task σ) : Nat :=
  match task.progress with
  | .queued => 4
  | .begun => 3
  | .ended _ => 2
  | .reported _ => 1
  | .signalled => 0

/-- A task takes four steps at most. -/
theorem Task.stepsLeft_le (task : Task σ) : task.stepsLeft ≤ 4 := by
  unfold stepsLeft
  split <;> omega

/-- Each step is one less to take. -/
theorem Task.stepsLeft_advance (task : Task σ) (board : σ) :
    (task.advance board).task.stepsLeft = task.stepsLeft - 1 := by
  unfold advance stepsLeft
  cases h : task.progress <;> simp [h]

/-- A task without a step left is over. -/
theorem Task.isOver_of_stepsLeft {task : Task σ} (none_left : task.stepsLeft = 0) :
    task.isOver = true := by
  unfold stepsLeft at none_left
  unfold isOver
  cases h : task.progress <;> simp [h] at none_left ⊢

namespace Phase

variable {phase : Phase σ} {events : List Event} {sent : List (Nat × Signal)}
  {ended : List (Nat × Reply CheckResult)}

/-- A runner that has not returned launches or drains. -/
theorem runner_eq_draining (unreturned : phase.result? = none)
    (launched : ∀ rest, phase.runner ≠ .launching rest) : phase.runner = .draining := by
  unfold result? at unreturned
  cases runner : phase.runner with
  | launching rest => exact absurd runner (launched rest)
  | draining => rfl
  | returned result => simp [runner] at unreturned

/-- A phase that has returned launches nothing. -/
theorem runner_ne_launching {result : Except Fault Nat} (returned : phase.result? = some result)
    (rest : List (CheckUnit σ)) : phase.runner ≠ .launching rest := by
  intro launching
  simp [result?, launching] at returned

/-! ## The launches -/

/-- A runner that launches after its step had more to launch before. -/
theorem launching_stepRunner {rest : List (CheckUnit σ)}
    (launching : (phase.stepRunner times).1.runner = .launching rest) :
    ∃ unit before, phase.runner = .launching (unit :: before) ∧ rest.length ≤ before.length := by
  cases runner : phase.runner with
  | launching before =>
    cases before with
    | nil => simp [stepRunner, runner] at launching
    | cons unit before =>
      refine ⟨unit, before, rfl, ?_⟩
      simp only [stepRunner, runner] at launching
      split at launching
      · exact Nat.le_of_eq (congrArg List.length (Runner.launching.inj launching).symm)
      · rw [← Runner.launching.inj launching]
        exact Nat.zero_le _
  | draining =>
    simp only [stepRunner, runner] at launching
    split at launching
    · cases launching
    · next signal _ _ =>
      simp only [afterSignal] at launching
      split at launching <;> cases launching
    · cases launching
    · simp at launching
  | returned result => simp [stepRunner, runner] at launching

/-- As many steps of the runner as there are units, and one more, launch them all. -/
theorem not_launching_after (times : PhaseTimes) (enough : Nat)
    (left : ∀ rest, phase.runner = .launching rest → rest.length ≤ enough) :
    ∀ rest, (phase.run times (List.replicate (enough + 1) .runner)).1.runner ≠
      .launching rest := by
  induction enough generalizing phase with
  | zero =>
    cases returned : phase.result? with
    | some result =>
      rw [run_of_returned returned]
      exact runner_ne_launching returned
    | none =>
      intro rest launching
      rw [List.replicate_succ, run_cons returned] at launching
      obtain ⟨unit, before, runner, -⟩ := launching_stepRunner launching
      simpa using left _ runner
  | succ enough ih =>
    cases returned : phase.result? with
    | some result =>
      rw [run_of_returned returned]
      exact runner_ne_launching returned
    | none =>
      rw [List.replicate_succ, run_cons returned]
      apply ih
      intro rest launching
      obtain ⟨unit, before, runner, fewer⟩ := launching_stepRunner launching
      have := left _ runner
      simp only [List.length_cons] at this
      omega

/-! ## The units -/

/-- How many steps the unit of a number has left. -/
def stepsLeft (phase : Phase σ) (n : Nat) : Nat :=
  match phase.tasks[n]? with
  | some task => task.stepsLeft
  | none => 0

/-- No unit of a phase has more than four steps left. -/
theorem stepsLeft_le (phase : Phase σ) (n : Nat) : phase.stepsLeft n ≤ 4 := by
  unfold stepsLeft
  split
  · exact Task.stepsLeft_le _
  · exact Nat.zero_le _

/-- A step of a unit is one less for it, and none for the others. -/
theorem stepsLeft_stepUnit (phase : Phase σ) (n m : Nat) :
    (phase.stepUnit n).1.stepsLeft m = phase.stepsLeft m - if n = m then 1 else 0 := by
  cases launched : phase.tasks[n]? with
  | none =>
    by_cases same : n = m
    · subst same
      simp [stepUnit, stepsLeft, launched]
    · simp [stepUnit, stepsLeft, launched, same]
  | some task =>
    have within : n < phase.tasks.length := (List.getElem?_eq_some_iff.mp launched).1
    by_cases same : n = m
    · subst same
      simp only [stepUnit, launched, stepsLeft, List.getElem?_set_self within, if_true]
      exact task.stepsLeft_advance _
    · simp [stepUnit, launched, stepsLeft, List.getElem?_set_ne same, same]

/-- While the runner waits, each pick of a unit leaves the unit one step less. -/
theorem stepsLeft_run_units (times : PhaseTimes) (draining : phase.runner = .draining)
    (numbers : List Nat) :
    (phase.run times (numbers.map .unit)).1.runner = .draining ∧
      ∀ m, (phase.run times (numbers.map .unit)).1.stepsLeft m =
        phase.stepsLeft m - numbers.count m := by
  induction numbers generalizing phase with
  | nil => exact ⟨draining, fun m => rfl⟩
  | cons n numbers ih =>
    have unreturned : phase.result? = none := by simp [result?, draining]
    have still : (phase.stepUnit n).1.runner = .draining := by
      unfold stepUnit
      split <;> exact draining
    rw [List.map_cons, run_cons unreturned]
    refine ⟨(ih still).1, fun m => ?_⟩
    simp only [step, (ih still).2 m, stepsLeft_stepUnit, List.count_cons, beq_iff_eq]
    omega

/-- The finishing schedule picks every unit as often as it has steps. -/
theorem four_le_count {n m : Nat} (within : m < n) :
    4 ≤ ((List.range n).flatMap fun number => List.replicate 4 number).count m := by
  have member : List.replicate 4 m ∈ (List.range n).map fun number => List.replicate 4 number :=
    List.mem_map.mpr ⟨m, List.mem_range.mpr within, rfl⟩
  have := (List.sublist_flatten_of_mem member).count_le m
  rwa [List.count_replicate_self, ← List.flatMap_def] at this

/-! ## The signals -/

/-- With all units over, a runner that waits returns in its next step, or receives a signal and
waits on. -/
theorem stepRunner_of_over (account : phase.Account units times events sent ended)
    (draining : phase.runner = .draining) (idle : ∀ n, phase.stepsLeft n = 0) :
    (phase.stepRunner times).1.result?.isSome = true ∨
      ((phase.stepRunner times).1.runner = .draining ∧
        (phase.stepRunner times).1.tasks = phase.tasks ∧
        (phase.stepRunner times).1.barrier.queue.size + 1 = phase.barrier.queue.size) := by
  rcases Barrier.poll_cases phase.barrier with ⟨-, poll⟩ | ⟨-, signal, rest, waiting, poll⟩ |
    ⟨-, -, -, poll⟩ | ⟨-, -, some_live, -⟩
  · left
    simp [stepRunner, draining, poll, result?]
  · have some_wait : phase.barrier.queue.size = rest.length + 1 := by
      rw [← Queue.length_toList, waiting, List.length_cons]
    simp only [stepRunner, draining, poll, result?, Queue.size_dropOldest, afterSignal]
    cases signal.outcome with
    | aborted reason => exact .inl rfl
    | passed | failed =>
      right
      refine ⟨rfl, trivial, ?_⟩
      omega
  · left
    simp [stepRunner, draining, poll, result?]
  · obtain ⟨n, live⟩ := List.exists_mem_of_ne_nil _ some_live
    obtain ⟨task, launched, working⟩ := (account.live n).mp live
    have none_left := idle n
    simp only [stepsLeft, launched] at none_left
    rw [Task.isOver_of_stepsLeft none_left] at working
    cases working

/-- A runner that waits for units which are all over returns once it has received what waits. -/
theorem returned_after (account : phase.Account units times events sent ended)
    (draining : phase.runner = .draining) (idle : ∀ n, phase.stepsLeft n = 0) (enough : Nat)
    (few : phase.barrier.queue.size ≤ enough) :
    (phase.run times (List.replicate (enough + 1) .runner)).1.result?.isSome = true := by
  have unreturned : phase.result? = none := by simp [result?, draining]
  induction enough generalizing phase events with
  | zero =>
    rw [List.replicate_succ, run_cons unreturned]
    rcases stepRunner_of_over account draining idle with returned | ⟨-, -, fewer⟩
    · exact returned
    · omega
  | succ enough ih =>
    rw [List.replicate_succ, run_cons unreturned]
    rcases stepRunner_of_over account draining idle with returned | ⟨still, same, fewer⟩
    · obtain ⟨result, returned⟩ := Option.isSome_iff_exists.mp returned
      rw [step, run_of_returned returned, returned]
      rfl
    · apply ih account.stepRunner still
      · intro n
        rw [stepsLeft, same]
        exact idle n
      · rw [← fewer] at few
        exact Nat.le_of_succ_le_succ few
      · simp [result?, still]

/-- A phase returns under every schedule, once the schedule is used up at the latest. -/
theorem returns (units : List (CheckUnit σ)) (times : PhaseTimes) (world : World σ)
    (schedule : List Pick) :
    ((start units world).run times (schedule ++ finishing units.length)).1.result?.isSome =
      true := by
  unfold finishing
  rw [run_append, run_append, run_append]
  have account := (account_start units times world).run schedule
  generalize ((start units world).run times schedule).1 = phase at account
  -- The launches.
  have left : ∀ rest, phase.runner = .launching rest → rest.length ≤ units.length := by
    intro rest launching
    simp [← account.launched_append launching]
  have launched := not_launching_after times units.length left
  have account := account.run (List.replicate (units.length + 1) .runner)
  generalize (phase.run times (List.replicate (units.length + 1) .runner)).1 = phase
    at launched account
  cases returned : phase.result? with
  | some result =>
    simp only [run_of_returned returned, returned, Option.isSome_some]
  | none =>
    have draining := runner_eq_draining returned launched
    -- The units.
    have picks : ((List.range units.length).flatMap fun number =>
        List.replicate 4 (Pick.unit number)) =
        ((List.range units.length).flatMap fun number => List.replicate 4 number).map
          Pick.unit := by
      simp [List.map_flatMap]
    have gone := stepsLeft_run_units times draining
      ((List.range units.length).flatMap fun number => List.replicate 4 number)
    have account := account.run (((List.range units.length).flatMap fun number =>
      List.replicate 4 number).map Pick.unit)
    rw [picks]
    generalize (phase.run times (((List.range units.length).flatMap fun number =>
      List.replicate 4 number).map Pick.unit)).1 = final at gone account
    have few := account.tasks_length_le
    have idle : ∀ n, final.stepsLeft n = 0 := by
      intro n
      by_cases within : n < units.length
      · have := four_le_count within
        have := phase.stepsLeft_le n
        have := gone.2 n
        omega
      · unfold stepsLeft
        rw [List.getElem?_eq_none (by omega)]
    -- The signals.
    refine returned_after account gone.1 idle units.length ?_
    have := account.balance
    have := account.issued
    omega

end Phase

end BoardDiagnostics
