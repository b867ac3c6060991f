import BoardDiagnostics.Battery.Basic
import BoardDiagnostics.Proofs.Phase.Watch
import BoardDiagnostics.Proofs.World
import Mathlib.Data.List.Forall2

/-!
# Batteries on emulated hardware

On emulated hardware a battery does not see its board.  Two runs of it on two boards go the same
way: their phases stay alike step by step, with the same notes, whatever the boards are and
whatever state they are in.
-/

set_option autoImplicit false

namespace BoardDiagnostics

variable {ω σ τ ε α β : Type}

/-! ### Alike courses -/

/-- Two courses that cannot be told apart, apart from what they leave, which is related. -/
structure Course.Alike (related : σ → τ → Prop) (a : Course ω σ ε α) (b : Course ω τ ε α) :
    Prop where
  result : a.result = b.result
  notes : a.notes = b.notes
  state : related a.state b.state

/-- Sequences go alike if their first parts do, and what follows goes alike from alike states. -/
theorem Course.Alike.bind {related : σ → τ → Prop} {first : Activity ω σ ε α}
    {other : Activity ω τ ε α} {next : α → Activity ω σ ε β} {follow : α → Activity ω τ ε β}
    {s : σ} {t : τ} (before : Course.Alike related (first s) (other t))
    (after : ∀ a, (first s).result = .ok a → related (first s).state (other t).state →
      Course.Alike related (next a (first s).state) (follow a (other t).state)) :
    Course.Alike related ((first >>= next) s) ((other >>= follow) t) := by
  rcases ends : (first s).result with fault | a
  · rw [Activity.bind_of_error ends, Activity.bind_of_error (before.result ▸ ends)]
    exact ⟨rfl, before.notes, before.state⟩
  · have rest := after a ends before.state
    rw [Activity.bind_of_ok ends, Activity.bind_of_ok (before.result ▸ ends)]
    refine ⟨rest.result, ?_, rest.state⟩
    show (first s).notes ++ _ = (other t).notes ++ _
    rw [before.notes, rest.notes]

/-! ### Alike tasks and worlds -/

/-- Two units that do the same on any boards. -/
structure CheckUnit.Alike (a : CheckUnit σ) (b : CheckUnit τ) : Prop where
  name : a.name = b.name
  title : a.title = b.title
  result : ∀ s t, (a.body s).result = (b.body t).result
  notes : ∀ s t, (a.body s).notes = (b.body t).notes

/-- Two tasks that have come as far as each other with such units. -/
structure Task.Alike (a : Task σ) (b : Task τ) : Prop where
  unit : a.unit.Alike b.unit
  signaller : a.signaller = b.signaller
  elapsed : a.elapsed = b.elapsed
  progress : a.progress = b.progress

/-- Two worlds with such strays; the boards do not matter. -/
def World.Alike (a : World σ) (b : World τ) : Prop := List.Forall₂ Task.Alike a.strays b.strays

/-- A host check does not look at the board. -/
theorem alike_hostCheck (runs : HostCheck → CheckRun) (check : HostCheck) :
    CheckUnit.Alike (check.unit runs : CheckUnit σ) (check.unit runs : CheckUnit τ) :=
  ⟨rfl, rfl, fun _ _ => rfl, fun _ _ => rfl⟩

/-- The host checks of two boards are twins. -/
theorem forall₂_alike_hostChecks (runs : HostCheck → CheckRun) (checks : List HostCheck) :
    List.Forall₂ CheckUnit.Alike (checks.map (HostCheck.unit runs) : List (CheckUnit σ))
      (checks.map (HostCheck.unit runs) : List (CheckUnit τ)) := by
  induction checks with
  | nil => exact .nil
  | cons check rest ih => exact .cons (alike_hostCheck runs check) ih

/-- Where a position is taken in two matched lists, it is taken by matching entries. -/
theorem getElem?_of_forall₂ {related : α → β → Prop} {as : List α} {bs : List β}
    (matched : List.Forall₂ related as bs) (n : Nat) :
    (as[n]? = none ∧ bs[n]? = none) ∨ ∃ a b, as[n]? = some a ∧ bs[n]? = some b ∧ related a b := by
  induction matched generalizing n with
  | nil => exact .inl ⟨rfl, rfl⟩
  | cons head tail ih =>
    cases n with
    | zero => exact .inr ⟨_, _, rfl, rfl, head⟩
    | succ n => exact ih n

/-- Related lists stay so when related elements replace the ones at the same place. -/
theorem forall₂_set {related : α → β → Prop} {as : List α} {bs : List β}
    (matched : List.Forall₂ related as bs) {a : α} {b : β} (ab : related a b) (n : Nat) :
    List.Forall₂ related (as.set n a) (bs.set n b) := by
  induction matched generalizing n with
  | nil => exact .nil
  | cons head tail ih =>
    cases n with
    | zero => exact .cons ab tail
    | succ n => exact .cons head (ih n)

/-- Twin tasks take twin steps, with the same notes and the same signal. -/
theorem Task.alike_advance {a : Task σ} {b : Task τ} (alike : a.Alike b) (s : σ) (t : τ) :
    (a.advance s).task.Alike (b.advance t).task ∧ (a.advance s).notes = (b.advance t).notes ∧
      (a.advance s).signal = (b.advance t).signal := by
  obtain ⟨unit, signaller, elapsed, progress⟩ := a
  obtain ⟨other, _, _, _⟩ := b
  obtain ⟨units, rfl, rfl, rfl⟩ := alike
  have name : unit.name = other.name := units.name
  have title : unit.title = other.title := units.title
  have result : (unit.body s).result = (other.body t).result := units.result s t
  have notes : (unit.body s).notes = (other.body t).notes := units.notes s t
  cases progress with
  | queued => exact ⟨⟨units, rfl, rfl, rfl⟩, by simp [advance, title], rfl⟩
  | begun => exact ⟨⟨units, rfl, rfl, by simp [advance, result]⟩, by simp [advance, notes], rfl⟩
  | ended outcome => exact ⟨⟨units, rfl, rfl, rfl⟩, by simp [advance, reportLines, name], rfl⟩
  | reported outcome => exact ⟨⟨units, rfl, rfl, rfl⟩, rfl, by simp [advance, name]⟩
  | signalled => exact ⟨⟨units, rfl, rfl, rfl⟩, rfl, rfl⟩

namespace World

/-- Strays step alike in worlds that are alike. -/
theorem alike_advanceStray {a : World σ} {b : World τ} (alike : a.Alike b) (n : Nat) :
    (a.advanceStray n).1.Alike (b.advanceStray n).1 ∧
      (a.advanceStray n).2 = (b.advanceStray n).2 := by
  unfold advanceStray
  rcases getElem?_of_forall₂ alike n with ⟨none_a, none_b⟩ | ⟨task, other, here, there, tasks⟩
  · rw [none_a, none_b]
    exact ⟨alike, rfl⟩
  · obtain ⟨after, notes, -⟩ := Task.alike_advance tasks a.board b.board
    rw [here, there]
    exact ⟨forall₂_set alike after n, congrArg (List.map Entry.note) notes⟩

/-- Strays step alike for any steps, in any order. -/
theorem alike_advanceStrays {a : World σ} {b : World τ} (alike : a.Alike b) (numbers : List Nat) :
    (a.advanceStrays numbers).1.Alike (b.advanceStrays numbers).1 ∧
      (a.advanceStrays numbers).2 = (b.advanceStrays numbers).2 := by
  induction numbers generalizing a b with
  | nil => exact ⟨alike, rfl⟩
  | cons n rest ih =>
    obtain ⟨between, first⟩ := alike_advanceStray alike n
    obtain ⟨after, more⟩ := ih between
    rw [advanceStrays_cons, advanceStrays_cons, first, more]
    exact ⟨after, rfl⟩

end World

/-! ### Alike phases -/

/-- Two runners at the same point. -/
inductive Runner.Alike : Runner σ → Runner τ → Prop where
  | launching {rest : List (CheckUnit σ)} {others : List (CheckUnit τ)}
      (units : List.Forall₂ CheckUnit.Alike rest others) :
      Runner.Alike (.launching rest) (.launching others)
  | draining : Runner.Alike .draining .draining
  | returned (result : Except Fault Nat) : Runner.Alike (.returned result) (.returned result)

namespace Phase

/-- Two phases that have come as far as each other. -/
structure Alike (a : Phase σ) (b : Phase τ) : Prop where
  world : a.world.Alike b.world
  tasks : List.Forall₂ Task.Alike a.tasks b.tasks
  runner : a.runner.Alike b.runner
  barrier : a.barrier = b.barrier

/-- What a signal makes of the runner depends on the signal only. -/
theorem alike_afterSignal (signal : Signal) :
    Runner.Alike (afterSignal signal : Runner σ) (afterSignal signal : Runner τ) := by
  unfold afterSignal
  cases signal.outcome with
  | aborted reason => exact .returned _
  | passed | failed => exact .draining

variable {a : Phase σ} {b : Phase τ} (alike : a.Alike b)

include alike

/-- The runners of twin phases step alike. -/
theorem alike_stepRunner (times : PhaseTimes) :
    (a.stepRunner times).1.Alike (b.stepRunner times).1 ∧
      (a.stepRunner times).2 = (b.stepRunner times).2 := by
  obtain ⟨world, tasks, runner, barrier⟩ := a
  obtain ⟨other, others, turn, _⟩ := b
  obtain ⟨worlds, launched, runners, rfl⟩ := alike
  have many : tasks.length = others.length := launched.length_eq
  cases runners with
  | launching units =>
    cases units with
    | nil => exact ⟨⟨worlds, launched, .draining, rfl⟩, rfl⟩
    | @cons unit twin rest twins head tail =>
      simp only [stepRunner]
      rcases barrier.issue with ⟨_ | signaller, issued⟩
      · exact ⟨⟨worlds, launched, .launching .nil, rfl⟩, rfl⟩
      · refine ⟨⟨worlds, ?_, .launching tail, rfl⟩, by simp [head.name]⟩
        refine List.rel_append launched (.cons ⟨head, rfl, ?_, rfl⟩ .nil)
        exact congrArg times.unit many
  | draining =>
    simp only [stepRunner]
    rcases barrier.poll with ⟨_ | signal | _ | _, polled⟩
    · exact ⟨⟨worlds, launched, .returned _, rfl⟩, rfl⟩
    · exact ⟨⟨worlds, launched, alike_afterSignal signal, rfl⟩, rfl⟩
    · exact ⟨⟨worlds, launched, .returned _, rfl⟩, rfl⟩
    · exact ⟨⟨worlds, launched, .draining, rfl⟩, rfl⟩
  | returned result => exact ⟨⟨worlds, launched, .returned result, rfl⟩, rfl⟩

/-- The units of twin phases step alike. -/
theorem alike_stepUnit (n : Nat) :
    (a.stepUnit n).1.Alike (b.stepUnit n).1 ∧ (a.stepUnit n).2 = (b.stepUnit n).2 := by
  unfold stepUnit
  rcases getElem?_of_forall₂ alike.tasks n with ⟨none_a, none_b⟩ | ⟨task, twin, here, there, tasks⟩
  · rw [none_a, none_b]
    exact ⟨alike, rfl⟩
  · obtain ⟨after, notes, signal⟩ := Task.alike_advance tasks a.world.board b.world.board
    rw [here, there]
    refine ⟨⟨alike.world, forall₂_set alike.tasks after n, alike.runner, ?_⟩,
      congrArg (List.map Entry.note) notes⟩
    simp only [signal, tasks.signaller, alike.barrier]

/-- Twin phases step alike, whoever takes the step. -/
theorem alike_step (times : PhaseTimes) (pick : Pick) :
    (a.step times pick).1.Alike (b.step times pick).1 ∧
      (a.step times pick).2 = (b.step times pick).2 := by
  cases pick with
  | runner => exact alike_stepRunner alike times
  | unit n => exact alike_stepUnit alike n
  | stray n =>
    obtain ⟨world, notes⟩ := World.alike_advanceStray alike.world n
    exact ⟨⟨world, alike.tasks, alike.runner, alike.barrier⟩, notes⟩

/-- Twin phases have the same result, if any. -/
theorem result?_of_alike : a.result? = b.result? := by
  obtain ⟨_, _, runner, _⟩ := a
  obtain ⟨_, _, turn, _⟩ := b
  have runners : runner.Alike turn := alike.runner
  cases runners with
  | launching units => rfl
  | draining => rfl
  | returned result => rfl

/-- By induction on the schedule, twin phases go alike to their ends. -/
theorem alike_run (times : PhaseTimes) (picks : List Pick) :
    (a.run times picks).1.Alike (b.run times picks).1 ∧
      (a.run times picks).2 = (b.run times picks).2 := by
  induction picks generalizing a b with
  | nil => exact ⟨alike, rfl⟩
  | cons pick picks ih =>
    have same := result?_of_alike alike
    cases returned : a.result? with
    | some result =>
      rw [run_of_returned returned, run_of_returned (same ▸ returned)]
      exact ⟨alike, rfl⟩
    | none =>
      obtain ⟨between, first⟩ := alike_step alike times pick
      obtain ⟨after, more⟩ := ih between
      rw [run_cons returned, run_cons (same ▸ returned), first, more]
      exact ⟨after, rfl⟩

end Phase

/-- Twin phases leave twin tasks behind. -/
theorem forall₂_leftover {as : List (Task σ)} {bs : List (Task τ)}
    (tasks : List.Forall₂ Task.Alike as bs) :
    List.Forall₂ Task.Alike (as.filter fun task => !task.isOver)
      (bs.filter fun task => !task.isOver) := by
  induction tasks with
  | nil => exact .nil
  | @cons a b as bs head tail ih =>
    have same : a.isOver = b.isOver := by simp only [Task.isOver, head.progress]
    cases ended : b.isOver with
    | true => simpa [same, ended] using ih
    | false => simpa [same, ended] using ⟨head, ih⟩

/-! ### Alike batteries -/

variable {a : World σ} {b : World τ}

/-- Twin units go alike as a concurrent phase, under one schedule. -/
theorem alike_runConcurrent {units : List (CheckUnit σ)} {others : List (CheckUnit τ)}
    (twins : List.Forall₂ CheckUnit.Alike units others) (schedule : List Pick) (times : PhaseTimes)
    (alike : a.Alike b) :
    Course.Alike World.Alike (runConcurrent units schedule times a)
      (runConcurrent others schedule times b) := by
  have many : units.length = others.length := twins.length_eq
  have start : (Phase.start units a).Alike (Phase.start others b) :=
    ⟨alike, .nil, .launching twins, congrArg Barrier.ofExpected many⟩
  obtain ⟨after, notes⟩ :=
    Phase.alike_run start times (schedule ++ Phase.finishing units.length)
  have left := List.rel_append after.world (forall₂_leftover after.tasks)
  unfold runConcurrent
  rw [← many]
  refine ⟨?_, congrArg (List.cons _) notes, left⟩
  simp only [Phase.result?_of_alike after, after.barrier]

section

variable (alike : a.Alike b)

include alike

/-- A pause goes alike in worlds that are alike. -/
theorem alike_pause (numbers : List Nat) :
    Course.Alike World.Alike (Diagnosis.pause numbers a) (Diagnosis.pause numbers b) := by
  obtain ⟨after, notes⟩ := World.alike_advanceStrays alike numbers
  exact ⟨rfl, notes, after⟩

/-- The allocation step does not look at the board. -/
theorem alike_runStress (spec : AllocationSpec) (conditions : Conditions) :
    Course.Alike World.Alike (runStress spec conditions a) (runStress spec conditions b) := by
  unfold runStress
  refine .bind ⟨rfl, rfl, alike⟩ fun _ _ alike => ?_
  refine .bind ⟨rfl, rfl, alike⟩ fun _ _ alike => ?_
  rcases (spec.stressFrom conditions.memory spec.runs 1).2 with panic | reasons | ⟨⟩
  · exact ⟨rfl, rfl, alike⟩
  · exact .bind ⟨rfl, rfl, alike⟩ fun _ _ alike => ⟨rfl, rfl, alike⟩
  · exact ⟨rfl, rfl, alike⟩

variable {caps : Capabilities} (board : Board σ) (other : Board τ) (conditions : Conditions)

/-- Without a hardware cipher, the registered units do not look at the board. -/
theorem alike_runRegistered (no_cipher : caps.hasHardwareCipher = false) :
    Course.Alike World.Alike (runRegistered caps board conditions a)
      (runRegistered caps other conditions b) := by
  unfold runRegistered registry
  simp only [no_cipher, Bool.false_eq_true, if_false, List.append_nil]
  exact alike_runConcurrent (forall₂_alike_hostChecks conditions.hostChecks _) _ _ alike

/-- Without media checks, the sequential phase does not look at the board. -/
theorem alike_runSequential (no_media : caps.runsMediaChecks = false) (config : Config)
    (occasion : Occasion) :
    Course.Alike World.Alike (runSequential caps config board occasion conditions a)
      (runSequential caps config other occasion conditions b) := by
  unfold runSequential
  simp only [no_media, Bool.false_eq_true, if_false]
  refine .bind (alike_pause alike _) fun _ _ alike => ?_
  exact .bind (alike_runStress alike _ _) fun _ _ alike => ⟨rfl, rfl, alike⟩

end

end BoardDiagnostics
