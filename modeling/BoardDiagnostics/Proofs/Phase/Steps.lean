import BoardDiagnostics.Proofs.Phase.Account
import BoardDiagnostics.Proofs.World

/-!
# Every step keeps the account

One lemma for each kind of step: of the runner, of a unit, of a stray.  From them follows that the
account holds after any schedule (`Phase.Account.run`).
-/

set_option autoImplicit false

namespace BoardDiagnostics

variable {σ α : Type} {units : List (CheckUnit σ)} {times : PhaseTimes}

/-! ### Tasks by number -/

/-- A new task comes under the next number. -/
theorem getElem?_append_singleton_eq_ite (tasks : List α) (task : α) (n : Nat) :
    (tasks ++ [task])[n]? = if n = tasks.length then some task else tasks[n]? := by
  split
  · next same => simp [same]
  · next different =>
    by_cases before : n < tasks.length
    · exact List.getElem?_append_left before
    · rw [List.getElem?_eq_none (by simp; omega), List.getElem?_eq_none (by omega)]

/-- A task that is replaced changes under its own number only. -/
theorem getElem?_set_eq_ite {tasks : List α} {n : Nat} (within : n < tasks.length) (task : α)
    (m : Nat) :
    (tasks.set n task)[m]? = if m = n then some task else tasks[m]? := by
  split
  · next same => rw [same, List.getElem?_set_self within]
  · next different => exact List.getElem?_set_ne (fun eq => different eq.symm)

/-- A step of a task does not change which units the tasks are of. -/
theorem map_unit_set_advance {tasks : List (Task σ)} {n : Nat} {task : Task σ}
    (here : tasks[n]? = some task) (board : σ) :
    (tasks.set n (task.advance board).task).map Task.unit = tasks.map Task.unit := by
  have within : n < tasks.length := (List.getElem?_eq_some_iff.mp here).1
  rw [List.map_set, Task.unit_advance]
  apply List.ext_getElem?
  intro m
  by_cases same : n = m
  · subst same
    rw [List.getElem?_set_self (by simpa using within), List.getElem?_map, here]
    rfl
  · exact List.getElem?_set_ne same

/-! ### Standing -/

/-- A runner launches no more units than there are. -/
theorem Standing.length_le {runner : Runner σ} {launched : List (CheckUnit σ)}
    {received : List Signal} {events : List Event}
    (standing : Standing units times runner launched received events) :
    launched.length ≤ units.length := by
  cases standing with
  | launching all => simp [all]
  | draining | released | aborted => exact Nat.le_refl _

/-- A signal that arrives is published, and the runner goes on or returns with it. -/
theorem Standing.receive {received : List Signal}
    (sane : ∀ s ∈ received, s.outcome.isAborted = false) (signal : Signal) :
    Standing units times (Phase.afterSignal signal) units (received ++ [signal])
      (launches (units.map CheckUnit.name) ++ completions (received ++ [signal])) := by
  cases outcome : signal.outcome with
  | aborted reason =>
    simp only [Phase.afterSignal, outcome]
    exact .aborted sane outcome
  | passed | failed =>
    simp only [Phase.afterSignal, outcome]
    refine .draining fun s mem => ?_
    rcases List.mem_append.mp mem with mem | mem
    · exact sane s mem
    · rw [List.mem_singleton.mp mem, outcome]
      rfl

namespace Phase

variable {phase : Phase σ} {events : List Event} {sent : List (Nat × Signal)}
  {ended : List (Nat × Reply CheckResult)}

/-- A runner leaves the world alone and keeps the tasks that it has launched. -/
theorem stepRunner_frame (times : PhaseTimes) (phase : Phase σ) :
    (phase.stepRunner times).1.world = phase.world ∧
      ∃ new, (phase.stepRunner times).1.tasks = phase.tasks ++ new := by
  unfold stepRunner
  split
  · exact ⟨rfl, [], (List.append_nil _).symm⟩
  · split
    · exact ⟨rfl, _, rfl⟩
    · exact ⟨rfl, [], (List.append_nil _).symm⟩
  · split <;> exact ⟨rfl, [], (List.append_nil _).symm⟩
  · exact ⟨rfl, [], (List.append_nil _).symm⟩

namespace Account

/-- No more tasks are launched than there are units. -/
theorem tasks_length_le (account : phase.Account units times events sent ended) :
    phase.tasks.length ≤ units.length := by
  obtain ⟨_, -, -, standing⟩ := account.standing
  simpa using standing.length_le

/-- While units are launched, they are the launched ones and the others. -/
theorem launched_append (account : phase.Account units times events sent ended)
    {rest : List (CheckUnit σ)} (launching : phase.runner = .launching rest) :
    phase.tasks.map Task.unit ++ rest = units := by
  obtain ⟨_, -, -, standing⟩ := account.standing
  rw [launching] at standing
  cases standing with
  | launching all => exact all.symm

/-- A unit that is still at work finds room for its signal. -/
theorem room (account : phase.Account units times events sent ended) {n : Nat}
    (live : n ∈ phase.barrier.live) : phase.barrier.queue.size < phase.barrier.capacity := by
  apply account.sound.room live
  rw [account.issued, account.expected]
  exact account.tasks_length_le

/-- Nothing is at work, and nothing waits: then every launched unit's signal was received. -/
theorem received_eq_of_idle (account : phase.Account units times events sent ended)
    (empty : phase.barrier.queue.toList = []) (none_live : phase.barrier.live = []) :
    phase.barrier.received = phase.tasks.length := by
  have balance := account.balance
  rw [← Queue.length_toList, empty, none_live, account.issued] at balance
  simpa using balance

/-- The account after the runner has done something else than launch a unit: it may have asked
for a signal, and stands where the signals received so far put it. -/
theorem withRunner (account : phase.Account units times events sent ended) {runner : Runner σ}
    {barrier : Barrier} {more : List Event}
    (moved : barrier = phase.barrier ∨ barrier = phase.barrier.poll.2)
    (launched : ∀ rest, runner ≠ .launching rest)
    (standing : ∃ received, received.length = barrier.received ∧
      sent.map Prod.snd = received ++ barrier.queue.toList ∧
      Standing units times runner (phase.tasks.map Task.unit) received more) :
    Account units times { phase with runner := runner, barrier := barrier } more sent ended := by
  have same_expected : barrier.expected = phase.barrier.expected := by
    rcases moved with rfl | rfl <;> simp
  have same_issued : barrier.issued = phase.barrier.issued := by
    rcases moved with rfl | rfl <;> simp
  have same_live : barrier.live = phase.barrier.live := by
    rcases moved with rfl | rfl <;> simp
  have same_sum : barrier.received + barrier.queue.size =
      phase.barrier.received + phase.barrier.queue.size := by
    rcases moved with rfl | rfl
    · rfl
    · exact Barrier.received_add_size_poll _
  constructor
  case record => exact account.record
  case held => exact account.held
  case expected => exact same_expected.trans account.expected
  case sound =>
    rcases moved with rfl | rfl
    · exact account.sound
    · exact account.sound.poll
  case issued => exact same_issued.trans account.issued
  case offering =>
    intro rest launching
    exact absurd launching (launched rest)
  case live =>
    intro n
    rw [same_live]
    exact account.live n
  case balance =>
    have := account.balance
    show barrier.received + barrier.queue.size + barrier.live.length = barrier.issued
    rw [same_live, same_issued, same_sum]
    exact this
  case standing => exact standing

/-- Launching a unit: its task joins the others, with the next signaller. -/
theorem launch (account : phase.Account units times events sent ended) {unit : CheckUnit σ}
    {rest : List (CheckUnit σ)} (launching : phase.runner = .launching (unit :: rest)) :
    (phase.stepRunner times).1.Account units times
      (events ++ Transcript.events (phase.stepRunner times).2) sent ended := by
  have issue := Barrier.issue_of_isOffering (account.offering _ launching)
  have fresh : phase.tasks[phase.tasks.length]? = none := List.getElem?_eq_none (Nat.le_refl _)
  have joined := getElem?_append_singleton_eq_ite phase.tasks
  simp only [stepRunner, launching, issue, Transcript.events_cons_event, Transcript.events_nil]
  constructor
  case record =>
    intro n
    rw [joined]
    have recorded := account.record n
    split
    · next same =>
      rw [same, fresh] at recorded
      rw [same, recorded.of_none.1, recorded.of_none.2]
      exact .waiting (.inl rfl)
    · exact recorded
  case held =>
    intro n task launched
    rw [joined] at launched
    split at launched
    · next same =>
      obtain rfl := Option.some.inj launched
      exact ⟨account.issued.trans same.symm, by rw [same]; rfl⟩
    · exact account.held n task launched
  case expected => exact account.expected
  case sound => simpa [issue] using account.sound.issue
  case issued => simp [account.issued]
  case offering =>
    intro _ _
    exact account.offering _ launching
  case live =>
    intro n
    rw [joined, List.mem_append, List.mem_singleton, account.issued]
    split
    · next same => simp [same, Task.launch, Task.isOver]
    · next different => simpa [different] using account.live n
  case balance =>
    have := account.balance
    simp only [List.length_append, List.length_singleton]
    omega
  case standing =>
    obtain ⟨received, count, order, standing⟩ := account.standing
    rw [launching] at standing
    cases standing with
    | launching all =>
      have standing : Standing units times (.launching rest) (phase.tasks.map Task.unit ++ [unit])
          [] (launches ((phase.tasks.map Task.unit ++ [unit]).map CheckUnit.name)) :=
        .launching (by simp [all])
      exact ⟨[], count, order, by simpa [launches, Task.launch] using standing⟩

/-- Asking for a signal: the runner goes on, returns with all units, or returns with the unit that
broke off.  It is never told of a loss. -/
theorem drain (account : phase.Account units times events sent ended)
    (draining : phase.runner = .draining) :
    (phase.stepRunner times).1.Account units times
      (events ++ Transcript.events (phase.stepRunner times).2) sent ended := by
  obtain ⟨received, count, order, standing⟩ := account.standing
  rw [draining] at standing
  generalize launched : phase.tasks.map Task.unit = all at standing
  cases standing with
  | draining sane =>
    rcases Barrier.poll_cases phase.barrier with ⟨released, poll⟩ |
      ⟨unreleased, signal, rest, waiting, poll⟩ | ⟨unreleased, empty, none_live, poll⟩ |
      ⟨unreleased, empty, some_live, poll⟩
    · have full : received.length = units.length := by
        rw [count, released, account.expected]
      have published : Transcript.events (phase.stepRunner times).2 =
          [.concurrentReleased units.length times.phase] := by
        simp [stepRunner, draining, poll, account.expected]
      rw [published]
      simp only [stepRunner, draining, poll]
      refine account.withRunner (.inr (by rw [poll])) nofun ⟨received, count, order, ?_⟩
      rw [account.expected, launched]
      exact .released full sane
    · have published : Transcript.events (phase.stepRunner times).2 = completions [signal] := by
        simp [stepRunner, draining, poll, completions]
      have arrived : sent.map Prod.snd =
          (received ++ [signal]) ++ phase.barrier.queue.dropOldest.toList := by
        rw [order, waiting, Queue.toList_dropOldest, waiting]
        simp
      rw [published, List.append_assoc, ← completions_append]
      simp only [stepRunner, draining, poll]
      apply account.withRunner (.inr (by rw [poll]))
      · intro rest
        unfold afterSignal
        split <;> nofun
      · refine ⟨received ++ [signal], by simp [count], arrived, ?_⟩
        rw [launched]
        exact .receive sane signal
    · -- All units are launched, so the balance leaves nothing that could be lost.
      have := account.received_eq_of_idle empty none_live
      rw [← List.length_map Task.unit, launched, ← account.expected] at this
      exact absurd this unreleased
    · have published : Transcript.events (phase.stepRunner times).2 = [] := by
        simp [stepRunner, draining, poll]
      rw [published, List.append_nil]
      simp only [stepRunner, draining, poll]
      refine account.withRunner (.inr (by rw [poll])) nofun ⟨received, count, order, ?_⟩
      rw [launched]
      exact .draining sane

/-- A step of the runner keeps the account, with what it publishes. -/
theorem stepRunner (account : phase.Account units times events sent ended) :
    (phase.stepRunner times).1.Account units times
      (events ++ Transcript.events (phase.stepRunner times).2) sent ended := by
  cases runner : phase.runner with
  | launching rest =>
    cases rest with
    | cons unit rest => exact account.launch runner
    | nil =>
      obtain ⟨received, count, order, standing⟩ := account.standing
      rw [runner] at standing
      generalize launched : phase.tasks.map Task.unit = all at standing
      simp only [Phase.stepRunner, runner, Transcript.events_cons_line, Transcript.events_nil,
        List.append_nil]
      cases standing with
      | launching all =>
        rw [List.append_nil] at all
        subst all
        have standing : Standing units times .draining units []
            (launches (units.map CheckUnit.name) ++ completions []) := .draining (by simp)
        refine account.withRunner (.inl rfl) nofun ⟨[], count, order, ?_⟩
        rw [launched]
        simpa [completions] using standing
  | draining => exact account.drain runner
  | returned result => simpa [Phase.stepRunner, runner] using account

/-- A launched unit is at work exactly as long as its signaller is live. -/
theorem mem_live_iff (account : phase.Account units times events sent ended) {n : Nat}
    {task : Task σ} (launched : phase.tasks[n]? = some task) :
    n ∈ phase.barrier.live ↔ task.isOver = false := by
  rw [account.live, launched]
  constructor
  · rintro ⟨_, same, working⟩
    rwa [Option.some.inj same]
  · intro working
    exact ⟨task, rfl, working⟩

/-- The barrier after a step of a unit: nothing has changed, or the unit's signal waits and its
signaller is spent. -/
theorem send_eq (account : phase.Account units times events sent ended) {n : Nat} {task : Task σ}
    (launched : phase.tasks[n]? = some task) {signal : Signal} {board : σ}
    (sends : (task.advance board).signal = some signal) :
    phase.barrier.send task.signaller signal =
      { phase.barrier with
        queue := phase.barrier.queue.push signal
        live := phase.barrier.live.erase n } := by
  have live := (account.mem_live_iff launched).mpr (Task.isOver_eq_false_of_signal sends)
  rw [(account.held n task launched).1]
  exact Barrier.send_of_room signal live (account.room live)

/-- The records after a step of a unit: what the step does is on the unit's own record, and the
other records stay as they are. -/
theorem record_advance (account : phase.Account units times events sent ended) {n : Nat}
    {task : Task σ} (launched : phase.tasks[n]? = some task) (m : Nat) :
    TaskRecord (times.unit m)
      (phase.tasks.set n (task.advance phase.world.board).task)[m]?
      (entriesOf m (ended ++ phase.bodyEndAt (.unit n)))
      (entriesOf m (sent ++ phase.signalAt (.unit n))) := by
  have recorded := account.record m
  have within : n < phase.tasks.length := (List.getElem?_eq_some_iff.mp launched).1
  simp only [bodyEndAt, signalAt, launched, Option.bind_some, entriesOf_append]
  by_cases same : m = n
  · subst same
    rw [entriesOf_map_self, entriesOf_map_self, List.getElem?_set_self within]
    rw [launched] at recorded
    exact recorded.advance (account.held m task launched).2 _
  · rw [entriesOf_map_of_ne same, entriesOf_map_of_ne same,
      List.getElem?_set_ne (fun eq => same eq.symm), List.append_nil, List.append_nil]
    exact recorded

section

variable {n : Nat} {task : Task σ}

/-- A step of a unit leaves it its signaller and its time. -/
theorem held_advance (account : phase.Account units times events sent ended)
    (launched : phase.tasks[n]? = some task) (m : Nat) (stepped : Task σ)
    (here : (phase.tasks.set n (task.advance phase.world.board).task)[m]? = some stepped) :
    stepped.signaller = m ∧ stepped.elapsed = times.unit m := by
  have within : n < phase.tasks.length := (List.getElem?_eq_some_iff.mp launched).1
  rw [getElem?_set_eq_ite within] at here
  split at here
  · next same =>
    obtain rfl := Option.some.inj here
    rw [same, Task.signaller_advance, Task.elapsed_advance]
    exact account.held n task launched
  · exact account.held m stepped here

/-- A step of a unit that sends no signal leaves the barrier alone. -/
theorem stepUnit_of_silent (account : phase.Account units times events sent ended)
    (launched : phase.tasks[n]? = some task)
    (sends : (task.advance phase.world.board).signal = none) :
    (phase.stepUnit n).1.Account units times
      (events ++ Transcript.events (phase.stepUnit n).2)
      (sent ++ phase.signalAt (.unit n)) (ended ++ phase.bodyEndAt (.unit n)) := by
  have within : n < phase.tasks.length := (List.getElem?_eq_some_iff.mp launched).1
  have silent : phase.signalAt (.unit n) = [] := by simp [signalAt, launched, sends]
  have records := account.record_advance launched
  have working := task.isOver_advance phase.world.board
  obtain ⟨received, count, order, standing⟩ := account.standing
  rw [← map_unit_set_advance launched phase.world.board] at standing
  simp only [Phase.stepUnit, launched, sends, Transcript.events_map_note, List.append_nil]
  constructor
  case record => exact records
  case held => exact account.held_advance launched
  case expected => exact account.expected
  case sound => exact account.sound
  case issued => simpa using account.issued
  case offering => exact account.offering
  case live =>
    intro m
    rw [getElem?_set_eq_ite within, account.live m]
    split
    · next same => simp [same, launched, working, sends]
    · rfl
  case balance => exact account.balance
  case standing => exact ⟨received, count, by simpa [silent] using order, standing⟩

/-- A signal joins those that wait, and its unit is no longer at work: the balance stays even. -/
theorem stepUnit_of_signal (account : phase.Account units times events sent ended)
    (launched : phase.tasks[n]? = some task) {signal : Signal}
    (sends : (task.advance phase.world.board).signal = some signal) :
    (phase.stepUnit n).1.Account units times
      (events ++ Transcript.events (phase.stepUnit n).2)
      (sent ++ phase.signalAt (.unit n)) (ended ++ phase.bodyEndAt (.unit n)) := by
  have within : n < phase.tasks.length := (List.getElem?_eq_some_iff.mp launched).1
  have spoken : phase.signalAt (.unit n) = [(n, signal)] := by simp [signalAt, launched, sends]
  have records := account.record_advance launched
  have working := task.isOver_advance phase.world.board
  have live := (account.mem_live_iff launched).mpr (Task.isOver_eq_false_of_signal sends)
  have sound := account.sound.send task.signaller signal
  rw [account.send_eq launched sends] at sound
  obtain ⟨received, count, order, standing⟩ := account.standing
  rw [← map_unit_set_advance launched phase.world.board] at standing
  simp only [Phase.stepUnit, launched, sends, Transcript.events_map_note, List.append_nil,
    account.send_eq launched sends]
  constructor
  case record => exact records
  case held => exact account.held_advance launched
  case expected => exact account.expected
  case sound => exact sound
  case issued => simpa using account.issued
  case offering => exact account.offering
  case live =>
    intro m
    rw [getElem?_set_eq_ite within, account.sound.live_nodup.mem_erase_iff, account.live m]
    split
    · next same => simp [same, working, sends]
    · next different => simp [different]
  case balance =>
    have := account.balance
    have := List.length_pos_of_mem live
    simp only [Queue.size_push, List.length_erase_of_mem live]
    omega
  case standing => exact ⟨received, count, by simp [spoken, order], standing⟩

end

/-- A step of a unit keeps the account, with its signal and the end of its body. -/
theorem stepUnit (account : phase.Account units times events sent ended) (n : Nat) :
    (phase.stepUnit n).1.Account units times
      (events ++ Transcript.events (phase.stepUnit n).2)
      (sent ++ phase.signalAt (.unit n)) (ended ++ phase.bodyEndAt (.unit n)) := by
  cases launched : phase.tasks[n]? with
  | none => simpa [Phase.stepUnit, signalAt, bodyEndAt, launched] using account
  | some task =>
    cases sends : (task.advance phase.world.board).signal with
    | none => exact account.stepUnit_of_silent launched sends
    | some signal => exact account.stepUnit_of_signal launched sends

/-- A stray touches nothing of a phase but its world, and publishes nothing. -/
theorem stepStray (account : phase.Account units times events sent ended) (n : Nat) :
    (phase.stepStray n).1.Account units times
      (events ++ Transcript.events (phase.stepStray n).2) sent ended := by
  have silent := phase.world.events_advanceStray n
  simp only [Phase.stepStray, silent, List.append_nil]
  exact ⟨account.record, account.held, account.expected, account.sound, account.issued,
    account.offering, account.live, account.balance, account.standing⟩

/-- Every step keeps the account, whoever takes it. -/
theorem step (account : phase.Account units times events sent ended) (pick : Pick) :
    (phase.step times pick).1.Account units times
      (events ++ Transcript.events (phase.step times pick).2)
      (sent ++ phase.signalAt pick) (ended ++ phase.bodyEndAt pick) := by
  cases pick with
  | runner => simpa [Phase.step, signalAt, bodyEndAt] using account.stepRunner
  | unit n => exact account.stepUnit n
  | stray n => simpa [Phase.step, signalAt, bodyEndAt] using account.stepStray n

/-- The account holds after any schedule. -/
theorem run (account : phase.Account units times events sent ended) (picks : List Pick) :
    (phase.run times picks).1.Account units times
      (events ++ Transcript.events (phase.run times picks).2)
      (sent ++ phase.signals times picks) (ended ++ phase.bodyEnds times picks) := by
  induction picks generalizing phase events sent ended with
  | nil => simpa [Phase.run, signals, bodyEnds, watch] using account
  | cons pick picks ih =>
    cases returned : phase.result? with
    | some result =>
      simpa [run_of_returned returned, signals, bodyEnds, watch, returned] using account
    | none =>
      simpa [run_cons returned, signals, bodyEnds, watch, returned, List.append_assoc] using
        ih (account.step pick)

end Account

end Phase

end BoardDiagnostics
