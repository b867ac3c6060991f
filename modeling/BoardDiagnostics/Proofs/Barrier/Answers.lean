import BoardDiagnostics.Proofs.Barrier.Uses

/-!
# What a barrier answers

`Barrier.Lawful` collects what can be relied on of a barrier after some sequence of uses: what it
has counted, which signals it has delivered and which it may have lost, and what it answers next.
The main statement, `lawful_over_every_sequence`, is that a new barrier is lawful after every
sequence of uses, whatever the number of signals it expects and however many signallers it hands
out.
-/

set_option autoImplicit false

namespace BoardDiagnostics.Barrier

/-- What can be relied on of a barrier for so many signals after a sequence of uses. -/
structure Lawful (expected : Nat) (barrier : Barrier) (uses : List BarrierUse) : Prop where
  /-- The count is the number of signals that were delivered, -/
  received_eq : (barrier.after uses).received = (barrier.delivered uses).length
  /-- never goes down, -/
  received_mono : ∀ more, (barrier.after uses).received ≤ (barrier.after (uses ++ more)).received
  /-- and never goes beyond what is expected. -/
  received_le : (barrier.after uses).received ≤ expected
  /-- The accepted signals are the delivered ones followed by those that wait. -/
  delivered_then_waiting :
    barrier.delivered uses ++ (barrier.after uses).queue.toList = barrier.accepted uses
  /-- Signals are accepted in the order in which they are sent. -/
  accepted_in_order : (barrier.accepted uses).Sublist (barrier.sent uses)
  /-- Exactly the signallers that are alive can send. -/
  sent_iff : ∀ n signal,
    ((barrier.after uses).step (.send n signal)).1 = .sent ↔ barrier.IsAlive uses n
  /-- A signal that is sent is lost only if the queue is full. -/
  lost_only_if_full : ∀ n signal, ((barrier.after uses).step (.send n signal)).1 = .sent →
    (barrier.after uses).accepted? (.send n signal) = none →
    (barrier.after uses).queue.toList.length = max expected 1
  /-- With no more signallers than expected signals, none is ever lost. -/
  none_lost : (barrier.handedOut uses).length ≤ expected →
    barrier.accepted uses = barrier.sent uses
  /-- From the first time that a signal was asked for, no signaller is handed out. -/
  issue_none_iff : ((barrier.after uses).step .issue).1 = .issued none ↔ .poll ∈ uses
  /-- The barrier is released when all expected signals have been delivered, -/
  poll_released_iff : ((barrier.after uses).step .poll).1 = .polled .released ↔
    (barrier.after uses).received = expected
  /-- and stays released. -/
  released_for_good : (barrier.after uses).received = expected →
    ∀ more, ((barrier.after (uses ++ more)).step .poll).1 = .polled .released
  /-- Until then it delivers the signal that has waited longest, -/
  poll_signal : (barrier.after uses).received ≠ expected →
    ∀ signal rest, (barrier.after uses).queue.toList = signal :: rest →
      ((barrier.after uses).step .poll).1 = .polled (.signal signal)
  /-- reports a loss if no signal waits exactly when no signaller is alive, -/
  poll_lost_iff : (barrier.after uses).received ≠ expected →
    (barrier.after uses).queue.toList = [] →
      (((barrier.after uses).step .poll).1 =
          .polled (.lost (.signalLost expected (barrier.after uses).received)) ↔
        ∀ n, ¬ barrier.IsAlive uses n)
  /-- and has to be waited for otherwise. -/
  poll_pending_iff : (barrier.after uses).received ≠ expected →
    (barrier.after uses).queue.toList = [] →
      (((barrier.after uses).step .poll).1 = .polled .pending ↔ ∃ n, barrier.IsAlive uses n)

/-- Making a barrier gives a barrier without signallers and signals. -/
theorem eq_ofExpected_of_create {expected : Nat} {barrier : Barrier}
    (made : create expected = .ok barrier) : barrier = ofExpected expected := by
  unfold create at made
  split at made
  · cases made
  · exact (Except.ok.inj made).symm

/-- A sound barrier loses the signal of a live signaller only if its queue is full. -/
theorem Sound.size_eq_of_lost {barrier : Barrier} (sound : barrier.Sound) {n : Nat}
    {signal : Signal} (live : n ∈ barrier.live)
    (lost : barrier.accepted? (.send n signal) = none) :
    barrier.queue.size = barrier.capacity := by
  have full : ¬ barrier.queue.size < barrier.capacity := by
    intro room
    rw [accepted?_of_room signal live room] at lost
    cases lost
  have := sound.size_le_capacity
  omega

/-- Sending is answered as sent exactly if the signaller is live, whether or not there is room for
the signal. -/
theorem step_send_eq_sent_iff (barrier : Barrier) (n : Nat) (signal : Signal) :
    (barrier.step (.send n signal)).1 = .sent ↔ n ∈ barrier.live := by
  simp only [step]
  split <;> simp_all

/-- A poll is answered with the release exactly if all expected signals were received. -/
theorem step_poll_eq_released_iff (barrier : Barrier) :
    (barrier.step .poll).1 = .polled .released ↔ barrier.received = barrier.expected := by
  rcases poll_cases barrier with ⟨released, h⟩ | ⟨unreleased, _, _, -, h⟩ | ⟨unreleased, -, -, h⟩ |
    ⟨unreleased, -, -, h⟩
  · simp [step, h, released]
  · simp [step, h, unreleased]
  · simp [step, h, unreleased]
  · simp [step, h, unreleased]

/-- What a barrier answers that is neither released nor has a signal. -/
theorem step_poll_of_empty {barrier : Barrier} (unreleased : barrier.received ≠ barrier.expected)
    (empty : barrier.queue.toList = []) :
    (barrier.step .poll).1 = if barrier.live = [] then
      .polled (.lost (.signalLost barrier.expected barrier.received)) else .polled .pending := by
  rcases poll_cases barrier with ⟨released, -⟩ | ⟨-, _, _, waiting, -⟩ | ⟨-, -, none_live, h⟩ |
    ⟨-, -, some_live, h⟩
  · exact absurd released unreleased
  · rw [empty] at waiting
    cases waiting
  · simp [step, h, none_live]
  · simp [step, h, some_live]

/-- As long as signals are expected, a poll delivers the one that waits longest. -/
theorem step_poll_of_waiting {barrier : Barrier} {signal : Signal} {rest : List Signal}
    (unreleased : barrier.received ≠ barrier.expected)
    (waiting : barrier.queue.toList = signal :: rest) :
    (barrier.step .poll).1 = .polled (.signal signal) := by
  rcases poll_cases barrier with ⟨released, -⟩ | ⟨-, oldest, _, waiting', h⟩ | ⟨-, empty, -⟩ |
    ⟨-, empty, -⟩
  · exact absurd released unreleased
  · rw [waiting] at waiting'
    rw [(List.cons.inj waiting').1]
    simp [step, h]
  · rw [waiting] at empty
    cases empty
  · rw [waiting] at empty
    cases empty

/-- A barrier that can be made at all is lawful after every sequence of uses. -/
theorem lawful_over_every_sequence {expected : Nat} {barrier : Barrier}
    (made : create expected = .ok barrier) (uses : List BarrierUse) :
    Lawful expected barrier uses := by
  obtain rfl := eq_ofExpected_of_create made
  have sound := (sound_ofExpected expected).after uses
  have expects : ∀ uses, ((ofExpected expected).after uses).expected = expected :=
    fun uses => expected_after _ uses
  have mono : ∀ more, ((ofExpected expected).after uses).received ≤
      ((ofExpected expected).after (uses ++ more)).received := by
    intro more
    rw [after_append, received_after ((ofExpected expected).after uses)]
    exact Nat.le_add_right _ _
  have bounded : ∀ uses, ((ofExpected expected).after uses).received ≤ expected := by
    intro uses
    have := ((sound_ofExpected expected).after uses).received_le_expected
    rwa [expects] at this
  have none_alive : ((ofExpected expected).after uses).live = [] ↔
      ∀ n, ¬ (ofExpected expected).IsAlive uses n := by
    rw [List.eq_nil_iff_forall_not_mem]
    exact forall_congr' fun n => not_congr (mem_live_after_iff expected uses n)
  constructor
  case received_eq => simpa [ofExpected] using received_after (ofExpected expected) uses
  case received_mono => exact mono
  case received_le => exact bounded uses
  case delivered_then_waiting =>
    simpa [ofExpected] using delivered_append_queue (ofExpected expected) uses
  case accepted_in_order => exact accepted_sublist_sent _ uses
  case sent_iff =>
    intro n signal
    rw [step_send_eq_sent_iff, mem_live_after_iff]
  case lost_only_if_full =>
    intro n signal answered lost
    have full := sound.size_eq_of_lost ((step_send_eq_sent_iff _ _ _).mp answered) lost
    rwa [capacity, expects, ← Queue.length_toList] at full
  case none_lost =>
    intro few
    apply accepted_eq_sent (sound_ofExpected expected)
    simpa [ofExpected] using few
  case issue_none_iff =>
    have offering := isOffering_after_iff (ofExpected expected) uses
    cases h : ((ofExpected expected).after uses).isOffering with
    | false =>
      have polled : .poll ∈ uses := by
        by_contra unpolled
        rw [offering.mpr ⟨rfl, unpolled⟩] at h
        cases h
      simp [step, issue_of_not_isOffering h, polled]
    | true =>
      have unpolled : .poll ∉ uses := (offering.mp h).2
      simp [step, issue_of_isOffering h, unpolled]
  case poll_released_iff => rw [step_poll_eq_released_iff, expects]
  case released_for_good =>
    intro released more
    rw [step_poll_eq_released_iff, expects]
    have := mono more
    have := bounded (uses ++ more)
    omega
  case poll_signal =>
    intro unreleased signal rest waiting
    exact step_poll_of_waiting (by rwa [expects]) waiting
  case poll_lost_iff =>
    intro unreleased empty
    rw [step_poll_of_empty (by rwa [expects]) empty, ← none_alive, expects]
    split <;> simp_all
  case poll_pending_iff =>
    intro unreleased empty
    rw [step_poll_of_empty (by rwa [expects]) empty, ← not_iff_not, not_exists, ← none_alive]
    split <;> simp_all

/-- A barrier for one signal that hands out two signallers, both of which send before it is
asked: it is lawful, and the second signal is the one that is lost. -/
theorem lawful_after_second_signal :
    create 1 = .ok (ofExpected 1) ∧
      Lawful 1 (ofExpected 1) [.issue, .issue, .send 0 ⟨"a", .zero, .passed⟩,
        .send 1 ⟨"b", .zero, .passed⟩, .poll, .poll] ∧
      (ofExpected 1).accepted [.issue, .issue, .send 0 ⟨"a", .zero, .passed⟩,
        .send 1 ⟨"b", .zero, .passed⟩, .poll, .poll] = [⟨"a", .zero, .passed⟩] :=
  ⟨rfl, lawful_over_every_sequence rfl _, by decide⟩

end BoardDiagnostics.Barrier
