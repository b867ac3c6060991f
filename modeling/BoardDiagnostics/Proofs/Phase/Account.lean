import BoardDiagnostics.Proofs.Barrier.Operations
import BoardDiagnostics.Proofs.Phase.Watch

/-!
# The account of a phase

What holds of a phase whatever schedule it has followed: `Phase.Account`.  Each unit has its record,
which its task's progress tells (`TaskRecord`).  The barrier is sound, and since every launched
unit has exactly one signaller, its balance is an equation: the signals that were delivered, the
signals that wait and the units still at work are together the units that were launched.  What
was published follows from where the runner stands and from the signals delivered so far
(`Standing`).

The equation is what rules out a loss: a signal finds room in the queue because its own unit is
one of those that are still at work, and a runner with an empty queue and no unit at work has
received every signal.
-/

set_option autoImplicit false

namespace BoardDiagnostics

variable {σ : Type}

/-- What is recorded of a unit that takes so long, as far as its task has come: how its body ended
and which signal it sent. -/
inductive TaskRecord (elapsed : Duration) :
    Option (Task σ) → List (Reply CheckResult) → List Signal → Prop where
  | unlaunched : TaskRecord elapsed none [] []
  | waiting {task : Task σ} (progress : task.progress = .queued ∨ task.progress = .begun) :
      TaskRecord elapsed (some task) [] []
  | ended {task : Task σ} (reply : Reply CheckResult)
      (progress : task.progress = .ended (.ofReply reply) ∨
        task.progress = .reported (.ofReply reply)) :
      TaskRecord elapsed (some task) [reply] []
  | signalled {task : Task σ} (reply : Reply CheckResult) (progress : task.progress = .signalled) :
      TaskRecord elapsed (some task) [reply] [⟨task.unit.name, elapsed, .ofReply reply⟩]

/-- A task remains one of the same unit. -/
@[simp] theorem Task.unit_advance (task : Task σ) (board : σ) :
    (task.advance board).task.unit = task.unit := by
  unfold Task.advance
  split <;> rfl

/-- A task keeps its signaller. -/
@[simp] theorem Task.signaller_advance (task : Task σ) (board : σ) :
    (task.advance board).task.signaller = task.signaller := by
  unfold Task.advance
  split <;> rfl

/-- A task keeps its time. -/
@[simp] theorem Task.elapsed_advance (task : Task σ) (board : σ) :
    (task.advance board).task.elapsed = task.elapsed := by
  unfold Task.advance
  split <;> rfl

/-- A task is over from the step on in which it sends its signal. -/
theorem Task.isOver_advance (task : Task σ) (board : σ) :
    (task.advance board).task.isOver = (task.isOver || (task.advance board).signal.isSome) := by
  unfold Task.advance Task.isOver
  cases h : task.progress <;> simp [h]

/-- A task that is over sends nothing. -/
theorem Task.isOver_eq_false_of_signal {task : Task σ} {board : σ} {signal : Signal}
    (sends : (task.advance board).signal = some signal) : task.isOver = false := by
  unfold Task.advance at sends
  unfold Task.isOver
  cases h : task.progress <;> simp [h] at sends ⊢

/-- A step of a task puts on record what it does. -/
theorem TaskRecord.advance {task : Task σ} {elapsed : Duration} {replies : List (Reply CheckResult)}
    {signals : List Signal} (record : TaskRecord elapsed (some task) replies signals)
    (lasts : task.elapsed = elapsed) (board : σ) :
    TaskRecord elapsed (some (task.advance board).task)
      (replies ++ (task.bodyEnd? board).toList)
      (signals ++ (task.advance board).signal.toList) := by
  cases record with
  | waiting progress =>
    rcases progress with queued | begun
    · simp only [Task.advance, Task.bodyEnd?, queued]
      exact .waiting (.inr rfl)
    · simp only [Task.advance, Task.bodyEnd?, begun]
      exact .ended _ (.inl rfl)
  | ended reply progress =>
    rcases progress with ended | reported
    · simp only [Task.advance, Task.bodyEnd?, ended]
      exact .ended reply (.inr rfl)
    · simp only [Task.advance, Task.bodyEnd?, reported, lasts]
      exact .signalled reply rfl
  | signalled reply progress =>
    simp only [Task.advance, Task.bodyEnd?, progress]
    exact .signalled reply progress

/-- Nothing is on record of a unit that was not launched. -/
theorem TaskRecord.of_none {elapsed : Duration} {replies : List (Reply CheckResult)}
    {signals : List Signal} (record : TaskRecord (σ := σ) elapsed none replies signals) :
    replies = [] ∧ signals = [] := by
  cases record
  exact ⟨rfl, rfl⟩

/-- A task ends its body once at most, and signals once at most. -/
theorem TaskRecord.length_le {task : Option (Task σ)} {elapsed : Duration}
    {replies : List (Reply CheckResult)} {signals : List Signal}
    (record : TaskRecord elapsed task replies signals) :
    replies.length ≤ 1 ∧ signals.length ≤ 1 := by
  cases record <;> simp

/-- A unit that is over has one signal on record, and it tells how the unit's own body ended. -/
theorem TaskRecord.of_isOver {task : Task σ} {elapsed : Duration}
    {replies : List (Reply CheckResult)} {signals : List Signal}
    (record : TaskRecord elapsed (some task) replies signals) (idle : task.isOver = true) :
    ∃ reply, replies = [reply] ∧ signals = [⟨task.unit.name, elapsed, .ofReply reply⟩] := by
  cases record with
  | waiting progress => rcases progress with h | h <;> simp [Task.isOver, h] at idle
  | ended reply progress => rcases progress with h | h <;> simp [Task.isOver, h] at idle
  | signalled reply progress => exact ⟨reply, rfl, rfl⟩

/-- Where a runner stands, given the units that it has launched and the signals that it has
received: what it has published so far, and that no signal but the last was of a unit that broke
off. -/
inductive Standing (units : List (CheckUnit σ)) (times : PhaseTimes) :
    Runner σ → List (CheckUnit σ) → List Signal → List Event → Prop where
  | launching {launched rest : List (CheckUnit σ)} (all : units = launched ++ rest) :
      Standing units times (.launching rest) launched []
        (launches (launched.map CheckUnit.name))
  | draining {received : List Signal} (sane : ∀ s ∈ received, s.outcome.isAborted = false) :
      Standing units times .draining units received
        (launches (units.map CheckUnit.name) ++ completions received)
  | released {received : List Signal} (all : received.length = units.length)
      (sane : ∀ s ∈ received, s.outcome.isAborted = false) :
      Standing units times (.returned (.ok units.length)) units received
        (launches (units.map CheckUnit.name) ++ completions received ++
          [.concurrentReleased units.length times.phase])
  | aborted {earlier : List Signal} {last : Signal} {reason : String}
      (sane : ∀ s ∈ earlier, s.outcome.isAborted = false)
      (broke : last.outcome = .aborted reason) :
      Standing units times (.returned (.error (.checkAborted last.name reason))) units
        (earlier ++ [last])
        (launches (units.map CheckUnit.name) ++ completions (earlier ++ [last]))

namespace Phase

/-- What holds of a phase with these units, given the events that it has published, the signals
that its units have sent and the ways in which their bodies have ended. -/
structure Account (units : List (CheckUnit σ)) (times : PhaseTimes) (phase : Phase σ)
    (events : List Event) (sent : List (Nat × Signal))
    (ended : List (Nat × Reply CheckResult)) : Prop where
  record : ∀ n, TaskRecord (times.unit n) phase.tasks[n]? (entriesOf n ended) (entriesOf n sent)
  /-- A task holds the signaller of its own number. -/
  held : ∀ n task, phase.tasks[n]? = some task → task.signaller = n ∧ task.elapsed = times.unit n
  expected : phase.barrier.expected = units.length
  sound : phase.barrier.Sound
  issued : phase.barrier.issued = phase.tasks.length
  offering : ∀ rest, phase.runner = .launching rest → phase.barrier.isOffering = true
  live : ∀ n, n ∈ phase.barrier.live ↔ ∃ task, phase.tasks[n]? = some task ∧ task.isOver = false
  balance : phase.barrier.received + phase.barrier.queue.size + phase.barrier.live.length =
    phase.barrier.issued
  /-- The signals that were sent have been received or wait, and what was published tells the
  former. -/
  standing : ∃ received, received.length = phase.barrier.received ∧
    sent.map Prod.snd = received ++ phase.barrier.queue.toList ∧
    Standing units times phase.runner (phase.tasks.map Task.unit) received events

/-- At the start of a phase nothing was launched, signalled or released. -/
theorem account_start (units : List (CheckUnit σ)) (times : PhaseTimes) (world : World σ) :
    (start units world).Account units times [] [] [] where
  record n := by simpa [start] using TaskRecord.unlaunched
  held n task launched := by simp [start] at launched
  expected := rfl
  sound := Barrier.sound_ofExpected _
  issued := rfl
  offering rest launching := rfl
  live n := by simp [start, Barrier.ofExpected]
  balance := rfl
  standing := ⟨[], rfl, rfl, .launching rfl⟩

end Phase

end BoardDiagnostics
