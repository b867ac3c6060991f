import BoardDiagnostics.Concurrent.Barrier
import Mathlib.Data.List.Nodup

/-!
# What each operation does to a barrier

A barrier can be asked for a signaller, take a signal in, lose a signaller, and be asked for a
signal.  For each of the four there is one lemma here that says all it can do, and from these
lemmas follows what no operation ever breaks: `Barrier.Sound`.

The part of soundness that the rest leans on is the balance: a signaller that was handed out is
live, or its signal waits, or its signal was delivered, or it is gone for good.  So the live
signallers, the waiting signals and the delivered ones are together no more than the signallers
that were handed out, and as long as these are no more than expected, the queue has room.
-/

set_option autoImplicit false

namespace BoardDiagnostics.Barrier

/-- What holds of a barrier from its making on. -/
structure Sound (barrier : Barrier) : Prop where
  /-- No signaller is live before it is handed out. -/
  live_lt_issued : ∀ n ∈ barrier.live, n < barrier.issued
  live_nodup : barrier.live.Nodup
  received_le_expected : barrier.received ≤ barrier.expected
  size_le_capacity : barrier.queue.size ≤ barrier.capacity
  balance : barrier.received + barrier.queue.size + barrier.live.length ≤ barrier.issued

/-- A barrier without signallers and signals is sound. -/
theorem sound_ofExpected (expected : Nat) : (ofExpected expected).Sound where
  live_lt_issued := by simp [ofExpected]
  live_nodup := by simp [ofExpected]
  received_le_expected := Nat.zero_le _
  size_le_capacity := Nat.zero_le _
  balance := Nat.le_refl _

/-- Being asked for a signaller: a barrier that still offers them hands out the next number. -/
theorem issue_of_isOffering {barrier : Barrier} (offering : barrier.isOffering = true) :
    barrier.issue = (some barrier.issued,
      { barrier with issued := barrier.issued + 1, live := barrier.live ++ [barrier.issued] }) := by
  simp [issue, offering]

/-- A barrier that offers no signallers any more stays as it is. -/
theorem issue_of_not_isOffering {barrier : Barrier} (closed : barrier.isOffering = false) :
    barrier.issue = (none, barrier) := by
  simp [issue, closed]

/-- Sending with a live signaller while there is room: the signal waits, and the signaller is
used up. -/
theorem send_of_room {barrier : Barrier} {n : Nat} (signal : Signal) (live : n ∈ barrier.live)
    (room : barrier.queue.size < barrier.capacity) :
    barrier.send n signal =
      { barrier with queue := barrier.queue.push signal, live := barrier.live.erase n } := by
  simp [send, live, enqueue, room, drop]

/-- Sending with a live signaller while the queue is full: the signal is lost, and the signaller
is used up all the same. -/
theorem send_of_full {barrier : Barrier} {n : Nat} (signal : Signal) (live : n ∈ barrier.live)
    (full : ¬ barrier.queue.size < barrier.capacity) :
    barrier.send n signal = { barrier with live := barrier.live.erase n } := by
  simp [send, live, enqueue, full, drop]

/-- A signaller that is not live sends nothing. -/
theorem send_of_not_live {barrier : Barrier} {n : Nat} (signal : Signal)
    (gone : n ∉ barrier.live) : barrier.send n signal = barrier := by
  simp [send, gone]

/-- All that can come of being asked for a signal: the barrier is released, or delivers the
oldest signal, or finds that no signaller is left, or has nothing yet.  In each case it hands out
no more signallers. -/
theorem poll_cases (barrier : Barrier) :
    (barrier.received = barrier.expected ∧
      barrier.poll = (.released, { barrier with isOffering := false })) ∨
    (barrier.received ≠ barrier.expected ∧ ∃ signal rest, barrier.queue.toList = signal :: rest ∧
      barrier.poll = (.signal signal,
        { barrier with
          isOffering := false
          received := barrier.received + 1
          queue := barrier.queue.dropOldest })) ∨
    (barrier.received ≠ barrier.expected ∧ barrier.queue.toList = [] ∧ barrier.live = [] ∧
      barrier.poll = (.lost (.signalLost barrier.expected barrier.received),
        { barrier with isOffering := false })) ∨
    (barrier.received ≠ barrier.expected ∧ barrier.queue.toList = [] ∧ barrier.live ≠ [] ∧
      barrier.poll = (.pending, { barrier with isOffering := false })) := by
  by_cases released : barrier.received = barrier.expected
  · exact .inl ⟨released, by simp [poll, released]⟩
  · right
    cases waiting : barrier.queue.toList with
    | cons signal rest =>
      have oldest : barrier.queue.oldest? = some signal := by
        rw [Queue.oldest?_eq_head?_toList, waiting, List.head?_cons]
      exact .inl ⟨released, signal, rest, rfl, by simp [poll, released, oldest]⟩
    | nil =>
      have oldest : barrier.queue.oldest? = none := by
        rw [Queue.oldest?_eq_head?_toList, waiting, List.head?_nil]
      by_cases none_live : barrier.live = []
      · exact .inr (.inl ⟨released, rfl, none_live, by simp [poll, released, oldest, none_live]⟩)
      · exact .inr (.inr ⟨released, rfl, none_live, by simp [poll, released, oldest, none_live]⟩)

/-! ## What an operation leaves alone -/

/-- Issuing a signaller leaves the count of expected signals alone. -/
@[simp] theorem expected_issue (barrier : Barrier) :
    barrier.issue.2.expected = barrier.expected := by
  unfold issue
  split <;> rfl

/-- Issuing a signaller leaves open whether there are more to come. -/
@[simp] theorem isOffering_issue (barrier : Barrier) :
    barrier.issue.2.isOffering = barrier.isOffering := by
  unfold issue
  split <;> rfl

/-- Sending leaves the count of expected signals alone. -/
@[simp] theorem expected_send (barrier : Barrier) (n : Nat) (signal : Signal) :
    (barrier.send n signal).expected = barrier.expected := by
  unfold send enqueue drop
  split <;> [split; skip] <;> rfl

/-- A signal that is sent is not received yet. -/
@[simp] theorem received_send (barrier : Barrier) (n : Nat) (signal : Signal) :
    (barrier.send n signal).received = barrier.received := by
  unfold send enqueue drop
  split <;> [split; skip] <;> rfl

/-- Sending does not end the offer of signallers. -/
@[simp] theorem isOffering_send (barrier : Barrier) (n : Nat) (signal : Signal) :
    (barrier.send n signal).isOffering = barrier.isOffering := by
  unfold send enqueue drop
  split <;> [split; skip] <;> rfl

/-- Sending issues no signaller. -/
@[simp] theorem issued_send (barrier : Barrier) (n : Nat) (signal : Signal) :
    (barrier.send n signal).issued = barrier.issued := by
  unfold send enqueue drop
  split <;> [split; skip] <;> rfl

/-- A signaller is used up by sending, whatever becomes of the signal. -/
@[simp] theorem live_send (barrier : Barrier) (n : Nat) (signal : Signal) :
    (barrier.send n signal).live = barrier.live.erase n := by
  by_cases live : n ∈ barrier.live
  · by_cases room : barrier.queue.size < barrier.capacity
    · rw [send_of_room signal live room]
    · rw [send_of_full signal live room]
  · rw [send_of_not_live signal live, List.erase_of_not_mem live]

/-- A poll leaves the count of expected signals alone. -/
@[simp] theorem expected_poll (barrier : Barrier) : barrier.poll.2.expected = barrier.expected := by
  rcases poll_cases barrier with h | ⟨-, _, _, -, h⟩ | h | h <;> simp [h]

/-- A poll issues no signaller. -/
@[simp] theorem issued_poll (barrier : Barrier) : barrier.poll.2.issued = barrier.issued := by
  rcases poll_cases barrier with h | ⟨-, _, _, -, h⟩ | h | h <;> simp [h]

/-- A poll leaves all signallers live that are. -/
@[simp] theorem live_poll (barrier : Barrier) : barrier.poll.2.live = barrier.live := by
  rcases poll_cases barrier with ⟨-, h⟩ | ⟨-, _, _, -, h⟩ | ⟨-, -, -, h⟩ | ⟨-, -, -, h⟩ <;>
    simp [h]

/-- Asking for a signal withholds the signallers. -/
@[simp] theorem isOffering_poll (barrier : Barrier) : barrier.poll.2.isOffering = false := by
  rcases poll_cases barrier with h | ⟨-, _, _, -, h⟩ | h | h <;> simp [h]

/-- A delivered signal is one less that waits. -/
theorem received_add_size_poll (barrier : Barrier) :
    barrier.poll.2.received + barrier.poll.2.queue.size =
      barrier.received + barrier.queue.size := by
  rcases poll_cases barrier with ⟨-, h⟩ | ⟨-, signal, rest, waiting, h⟩ | ⟨-, -, -, h⟩ |
    ⟨-, -, -, h⟩
  · rw [h]
  · have some_wait : barrier.queue.size = rest.length + 1 := by
      rw [← Queue.length_toList, waiting, List.length_cons]
    simp only [h, Queue.size_dropOldest]
    omega
  · rw [h]
  · rw [h]

/-- No use changes the count of expected signals. -/
@[simp] theorem expected_step (barrier : Barrier) (use : BarrierUse) :
    (barrier.step use).2.expected = barrier.expected := by
  cases use <;> simp [step, drop]

/-! ## Soundness -/

/-- Issuing a signaller keeps a barrier sound: the new one is live, and its number is unused. -/
theorem Sound.issue {barrier : Barrier} (sound : barrier.Sound) : barrier.issue.2.Sound := by
  cases offering : barrier.isOffering with
  | false => simpa [issue_of_not_isOffering offering] using sound
  | true =>
    rw [issue_of_isOffering offering]
    have fresh : barrier.issued ∉ barrier.live := fun live =>
      Nat.lt_irrefl _ (sound.live_lt_issued _ live)
    constructor
    · intro n live
      rcases List.mem_append.mp live with live | live
      · exact Nat.lt_succ_of_lt (sound.live_lt_issued n live)
      · rw [List.mem_singleton] at live
        show n < barrier.issued + 1
        omega
    · exact sound.live_nodup.append (List.nodup_singleton _) (by simpa using fresh)
    · exact sound.received_le_expected
    · exact sound.size_le_capacity
    · have := sound.balance
      simp only [List.length_append, List.length_singleton]
      omega

/-- A signaller that goes away takes nothing with it but itself. -/
theorem Sound.drop {barrier : Barrier} (sound : barrier.Sound) (n : Nat) :
    (barrier.drop n).Sound where
  live_lt_issued m live := sound.live_lt_issued m (List.mem_of_mem_erase live)
  live_nodup := sound.live_nodup.erase n
  received_le_expected := sound.received_le_expected
  size_le_capacity := sound.size_le_capacity
  balance := by
    have := sound.balance
    have := List.length_erase_le (a := n) (l := barrier.live)
    simp only [Barrier.drop]
    omega

/-- Sending keeps a barrier sound, whether the signal is taken in, lost or comes from nobody. -/
theorem Sound.send {barrier : Barrier} (sound : barrier.Sound) (n : Nat) (signal : Signal) :
    (barrier.send n signal).Sound := by
  by_cases live : n ∈ barrier.live
  · by_cases room : barrier.queue.size < barrier.capacity
    · have dropped := sound.drop n
      rw [send_of_room signal live room]
      constructor
      · exact dropped.live_lt_issued
      · exact dropped.live_nodup
      · exact sound.received_le_expected
      · simp only [Queue.size_push]
        exact room
      · have := sound.balance
        have := List.length_pos_of_mem live
        simp only [Queue.size_push, List.length_erase_of_mem live]
        omega
    · rw [send_of_full signal live room]
      exact sound.drop n
  · rw [send_of_not_live signal live]
    exact sound

/-- A poll keeps a barrier sound. -/
theorem Sound.poll {barrier : Barrier} (sound : barrier.Sound) : barrier.poll.2.Sound := by
  have sum := received_add_size_poll barrier
  have bounds : barrier.poll.2.received ≤ barrier.expected ∧
      barrier.poll.2.queue.size ≤ barrier.queue.size := by
    have := sound.received_le_expected
    rcases poll_cases barrier with ⟨-, h⟩ | ⟨unreleased, _, _, -, h⟩ | ⟨-, -, -, h⟩ | ⟨-, -, -, h⟩
    · simpa [h] using this
    · simp only [h] at sum ⊢
      omega
    · simpa [h] using this
    · simpa [h] using this
  constructor
  · simpa using sound.live_lt_issued
  · simpa using sound.live_nodup
  · simpa using bounds.1
  · have := sound.size_le_capacity
    simp only [capacity, expected_poll] at this ⊢
    omega
  · have := sound.balance
    rw [issued_poll, live_poll]
    omega

/-- No use of a barrier breaks its soundness. -/
theorem Sound.step {barrier : Barrier} (sound : barrier.Sound) (use : BarrierUse) :
    (barrier.step use).2.Sound := by
  cases use with
  | issue => exact sound.issue
  | send n signal => exact sound.send n signal
  | drop n => exact sound.drop n
  | poll => exact sound.poll

/-- As long as no more signallers were handed out than signals are expected, there is room for
the signal of every live one. -/
theorem Sound.room {barrier : Barrier} (sound : barrier.Sound) {n : Nat} (live : n ∈ barrier.live)
    (few : barrier.issued ≤ barrier.expected) : barrier.queue.size < barrier.capacity := by
  have := sound.balance
  have := List.length_pos_of_mem live
  have : barrier.expected ≤ barrier.capacity := Nat.le_max_left _ _
  omega

end BoardDiagnostics.Barrier
