import BoardDiagnostics.Proofs.Barrier.Operations
import Mathlib.Data.List.Infix

/-!
# A barrier under any sequence of uses

What is seen of a barrier that is used again and again: the signallers it handed out, the signals
that were sent, those of them that its queue took in, and those that it delivered.  The queue is
what lies between the last two (`delivered_append_queue`), and a signaller is live exactly as long
as nobody has spent it (`mem_live_after_iff`).  From these follows what each use is answered after
any sequence of uses, which is the main statement of the module on the answers,
`lawful_over_every_sequence`.
-/

set_option autoImplicit false

namespace BoardDiagnostics

/-- The signaller that a use spends, whether or not a signal comes of it. -/
def BarrierUse.spent? : BarrierUse → Option Nat
  | .send signaller _ | .drop signaller => some signaller
  | .issue | .poll => none

/-- The signaller that an answer hands out. -/
def BarrierAnswer.signaller? : BarrierAnswer → Option Nat
  | .issued signaller => signaller
  | _ => none

/-- The signal that an answer delivers. -/
def BarrierAnswer.delivered? : BarrierAnswer → Option Signal
  | .polled (.signal signal) => some signal
  | _ => none

/-- The signal that a use sent, according to the answer to it. -/
def BarrierUse.sent? : BarrierUse → BarrierAnswer → Option Signal
  | .send _ signal, .sent => some signal
  | _, _ => none

namespace Barrier

/-- The answers to a sequence of uses. -/
def answers (barrier : Barrier) (uses : List BarrierUse) : List BarrierAnswer :=
  (barrier.run uses).map Prod.fst

/-- The barrier after a sequence of uses. -/
def after (barrier : Barrier) (uses : List BarrierUse) : Barrier :=
  ((barrier.run uses).map Prod.snd).getLastD barrier

/-- The signallers that were handed out, in order. -/
def handedOut (barrier : Barrier) (uses : List BarrierUse) : List Nat :=
  (barrier.answers uses).filterMap BarrierAnswer.signaller?

/-- The signals that were delivered, in order. -/
def delivered (barrier : Barrier) (uses : List BarrierUse) : List Signal :=
  (barrier.answers uses).filterMap BarrierAnswer.delivered?

/-- The signals that were sent, in order. -/
def sent (barrier : Barrier) (uses : List BarrierUse) : List Signal :=
  (uses.zip (barrier.answers uses)).filterMap fun entry => entry.1.sent? entry.2

/-- The signal of a use that ends up at the end of the queue, if it does. -/
def accepted? (barrier : Barrier) : BarrierUse → Option Signal
  | .send signaller signal =>
    if (barrier.send signaller signal).queue.toList = barrier.queue.toList ++ [signal] then
      some signal
    else none
  | _ => none

/-- The signals that the queue took in, in order. -/
def accepted (barrier : Barrier) : List BarrierUse → List Signal
  | [] => []
  | use :: uses => (barrier.accepted? use).toList ++ accepted (barrier.step use).2 uses

/-- After a sequence of uses, a signaller is alive that one of them handed out and no later one
has spent. -/
def IsAlive (barrier : Barrier) (uses : List BarrierUse) (signaller : Nat) : Prop :=
  ∃ earlier later, uses = earlier ++ .issue :: later ∧
    ((barrier.after earlier).step .issue).1 = .issued (some signaller) ∧
    ∀ use ∈ later, use.spent? ≠ some signaller

/-! ## Sequences of uses, one use at a time -/

/-- Without uses, a barrier stays as it is. -/
@[simp] theorem after_nil (barrier : Barrier) : barrier.after [] = barrier := rfl

/-- The first use of a sequence comes first. -/
@[simp] theorem after_cons (barrier : Barrier) (use : BarrierUse) (uses : List BarrierUse) :
    barrier.after (use :: uses) = (barrier.step use).2.after uses := by
  simp only [after, run, List.map_cons, List.getLastD_cons]

/-- Uses go on from where those before them led. -/
theorem after_append (barrier : Barrier) (uses more : List BarrierUse) :
    barrier.after (uses ++ more) = (barrier.after uses).after more := by
  induction uses generalizing barrier with
  | nil => rfl
  | cons use uses ih => simp only [List.cons_append, after_cons, ih]

/-- The first use hands out its signaller before all others. -/
theorem handedOut_cons (barrier : Barrier) (use : BarrierUse) (uses : List BarrierUse) :
    barrier.handedOut (use :: uses) =
      (barrier.step use).1.signaller?.toList ++ (barrier.step use).2.handedOut uses := by
  simp only [handedOut, answers, run, List.map_cons, List.filterMap_cons]
  cases (barrier.step use).1.signaller? <;> rfl

/-- The first use delivers its signal before all others. -/
theorem delivered_cons (barrier : Barrier) (use : BarrierUse) (uses : List BarrierUse) :
    barrier.delivered (use :: uses) =
      (barrier.step use).1.delivered?.toList ++ (barrier.step use).2.delivered uses := by
  simp only [delivered, answers, run, List.map_cons, List.filterMap_cons]
  cases (barrier.step use).1.delivered? <;> rfl

/-- The first use sends its signal before all others. -/
theorem sent_cons (barrier : Barrier) (use : BarrierUse) (uses : List BarrierUse) :
    barrier.sent (use :: uses) =
      (use.sent? (barrier.step use).1).toList ++ (barrier.step use).2.sent uses := by
  simp only [sent, answers, run, List.map_cons, List.zip_cons_cons, List.filterMap_cons]
  cases use.sent? (barrier.step use).1 <;> rfl

/-! ## What a single use does to the counts -/

/-- A live signaller has its signal taken in as long as there is room. -/
theorem accepted?_of_room {barrier : Barrier} {n : Nat} (signal : Signal)
    (live : n ∈ barrier.live) (room : barrier.queue.size < barrier.capacity) :
    barrier.accepted? (.send n signal) = some signal := by
  simp [accepted?, send_of_room signal live room]

/-- Without room, the signal of a live signaller is lost. -/
theorem accepted?_of_full {barrier : Barrier} {n : Nat} (signal : Signal)
    (live : n ∈ barrier.live) (full : ¬ barrier.queue.size < barrier.capacity) :
    barrier.accepted? (.send n signal) = none := by
  simp [accepted?, send_of_full signal live full]

/-- A signaller that is not live has no signal taken in. -/
theorem accepted?_of_not_live {barrier : Barrier} {n : Nat} (signal : Signal)
    (gone : n ∉ barrier.live) : barrier.accepted? (.send n signal) = none := by
  simp [accepted?, send_of_not_live signal gone]

/-- Each use lets the delivered signal out at the front of the queue and the accepted one in at
the back. -/
theorem delivered_append_queue_step (barrier : Barrier) (use : BarrierUse) :
    (barrier.step use).1.delivered?.toList ++ (barrier.step use).2.queue.toList =
      barrier.queue.toList ++ (barrier.accepted? use).toList := by
  cases use with
  | issue =>
    simp only [step, issue]
    split <;> simp [BarrierAnswer.delivered?, accepted?]
  | send n signal =>
    have nothing : (barrier.step (.send n signal)).1.delivered? = none := by
      simp only [step]
      split <;> rfl
    rw [nothing]
    by_cases live : n ∈ barrier.live
    · by_cases room : barrier.queue.size < barrier.capacity
      · simp [accepted?_of_room signal live room, step, send_of_room signal live room]
      · simp [accepted?_of_full signal live room, step, send_of_full signal live room]
    · simp [accepted?_of_not_live signal live, step, send_of_not_live signal live]
  | drop n => simp [step, drop, BarrierAnswer.delivered?, accepted?]
  | poll =>
    rcases poll_cases barrier with ⟨-, h⟩ | ⟨-, signal, rest, waiting, h⟩ | ⟨-, -, -, h⟩ |
      ⟨-, -, -, h⟩
    · simp [step, h, BarrierAnswer.delivered?, accepted?]
    · simp [step, h, BarrierAnswer.delivered?, accepted?, waiting]
    · simp [step, h, BarrierAnswer.delivered?, accepted?]
    · simp [step, h, BarrierAnswer.delivered?, accepted?]

/-- A use counts the signal as received that it delivers, and no other. -/
theorem received_step (barrier : Barrier) (use : BarrierUse) :
    (barrier.step use).2.received =
      barrier.received + (barrier.step use).1.delivered?.toList.length := by
  cases use with
  | issue =>
    simp only [step, issue]
    split <;> rfl
  | send n signal =>
    simp only [step, received_send]
    split <;> rfl
  | drop n => rfl
  | poll =>
    rcases poll_cases barrier with ⟨-, h⟩ | ⟨-, _, _, -, h⟩ | ⟨-, -, -, h⟩ | ⟨-, -, -, h⟩ <;>
      simp [step, h, BarrierAnswer.delivered?]

/-- A use counts the signaller as issued that it hands out, and no other. -/
theorem issued_step (barrier : Barrier) (use : BarrierUse) :
    (barrier.step use).2.issued =
      barrier.issued + (barrier.step use).1.signaller?.toList.length := by
  cases use with
  | issue =>
    simp only [step, issue]
    split <;> rfl
  | send n signal =>
    simp only [step, issued_send]
    split <;> rfl
  | drop n => rfl
  | poll =>
    rcases poll_cases barrier with ⟨-, h⟩ | ⟨-, _, _, -, h⟩ | ⟨-, -, -, h⟩ | ⟨-, -, -, h⟩ <;>
      simp [step, h, BarrierAnswer.signaller?]

/-- Only a signal that was sent is accepted. -/
theorem accepted?_sublist_sent? (barrier : Barrier) (use : BarrierUse) :
    (barrier.accepted? use).toList.Sublist (use.sent? (barrier.step use).1).toList := by
  cases use with
  | send n signal =>
    by_cases live : n ∈ barrier.live
    · by_cases room : barrier.queue.size < barrier.capacity
      · simp [accepted?_of_room signal live room, step, live, BarrierUse.sent?]
      · simp [accepted?_of_full signal live room]
    · simp [accepted?_of_not_live signal live]
  | issue | drop n | poll => exact List.nil_sublist _

/-- What a use does to the live signallers: a new one may join them, and the spent one leaves. -/
theorem mem_live_step_iff {barrier : Barrier} (sound : barrier.Sound) (use : BarrierUse) (n : Nat) :
    n ∈ (barrier.step use).2.live ↔
      (use = .issue ∧ (barrier.step .issue).1 = .issued (some n)) ∨
        (n ∈ barrier.live ∧ use.spent? ≠ some n) := by
  cases use with
  | issue =>
    cases offering : barrier.isOffering with
    | false => simp [step, issue_of_not_isOffering offering, BarrierUse.spent?]
    | true =>
      simp only [step, issue_of_isOffering offering, List.mem_append, List.mem_singleton,
        BarrierUse.spent?, BarrierAnswer.issued.injEq, Option.some.injEq]
      constructor
      · rintro (live | rfl)
        · exact .inr ⟨live, (Option.some_ne_none n).symm⟩
        · exact .inl ⟨trivial, rfl⟩
      · rintro (⟨-, rfl⟩ | ⟨live, -⟩)
        · exact .inr rfl
        · exact .inl live
  | send m signal =>
    have same : ∀ k, (BarrierUse.send k signal).spent? ≠ some n ↔ n ≠ k := by
      intro k
      simp [BarrierUse.spent?, eq_comm]
    simp only [step, live_send, same, reduceCtorEq, false_and, false_or]
    rw [sound.live_nodup.mem_erase_iff, and_comm]
  | drop m =>
    simp only [step, drop, BarrierUse.spent?, sound.live_nodup.mem_erase_iff]
    constructor
    · rintro ⟨ne, live⟩
      exact .inr ⟨live, fun eq => ne (Option.some.inj eq).symm⟩
    · rintro (⟨h, -⟩ | ⟨live, ne⟩)
      · cases h
      · exact ⟨fun eq => ne (by rw [eq]), live⟩
  | poll => simp [step, BarrierUse.spent?]

/-! ## Whole sequences of uses -/

/-- Any sequence of uses keeps a barrier sound. -/
theorem Sound.after {barrier : Barrier} (sound : barrier.Sound) (uses : List BarrierUse) :
    (barrier.after uses).Sound := by
  induction uses generalizing barrier with
  | nil => exact sound
  | cons use uses ih =>
    rw [after_cons]
    exact ih (sound.step use)

/-- No sequence of uses changes the count of expected signals. -/
@[simp] theorem expected_after (barrier : Barrier) (uses : List BarrierUse) :
    (barrier.after uses).expected = barrier.expected := by
  induction uses generalizing barrier with
  | nil => rfl
  | cons use uses ih => rw [after_cons, ih, expected_step]

/-- The queue lies between the signals that were accepted and those that were delivered. -/
theorem delivered_append_queue (barrier : Barrier) (uses : List BarrierUse) :
    barrier.delivered uses ++ (barrier.after uses).queue.toList =
      barrier.queue.toList ++ barrier.accepted uses := by
  induction uses generalizing barrier with
  | nil => simp [delivered, answers, run, accepted]
  | cons use uses ih =>
    rw [delivered_cons, after_cons, accepted, List.append_assoc, ih, ← List.append_assoc,
      delivered_append_queue_step, List.append_assoc]

/-- The count of deliveries is right. -/
theorem received_after (barrier : Barrier) (uses : List BarrierUse) :
    (barrier.after uses).received = barrier.received + (barrier.delivered uses).length := by
  induction uses generalizing barrier with
  | nil => rfl
  | cons use uses ih =>
    rw [after_cons, ih, received_step, delivered_cons, List.length_append, Nat.add_assoc]

/-- Signals are accepted in the order in which they were sent. -/
theorem accepted_sublist_sent (barrier : Barrier) (uses : List BarrierUse) :
    (barrier.accepted uses).Sublist (barrier.sent uses) := by
  induction uses generalizing barrier with
  | nil => exact List.nil_sublist _
  | cons use uses ih =>
    rw [accepted, sent_cons]
    exact (accepted?_sublist_sent? barrier use).append (ih _)

/-- No signal is lost of a barrier that hands out no more signallers than it expects signals. -/
theorem accepted_eq_sent {barrier : Barrier} (sound : barrier.Sound) (uses : List BarrierUse)
    (few : barrier.issued + (barrier.handedOut uses).length ≤ barrier.expected) :
    barrier.accepted uses = barrier.sent uses := by
  induction uses generalizing barrier with
  | nil => rfl
  | cons use uses ih =>
    rw [handedOut_cons, List.length_append] at few
    have rest := ih (sound.step use) (by rw [issued_step, expected_step]; omega)
    rw [accepted, sent_cons, rest]
    congr 1
    cases use with
    | send n signal =>
      by_cases live : n ∈ barrier.live
      · have room := sound.room live (by omega)
        simp [accepted?_of_room signal live room, step, live, BarrierUse.sent?]
      · simp [accepted?_of_not_live signal live, step, live, BarrierUse.sent?]
    | issue | drop n | poll => rfl

/-- A barrier that has been asked for a signal hands out no signallers, and one that has not
does. -/
theorem isOffering_after_iff (barrier : Barrier) (uses : List BarrierUse) :
    (barrier.after uses).isOffering = true ↔ barrier.isOffering = true ∧ .poll ∉ uses := by
  induction uses generalizing barrier with
  | nil => simp
  | cons use uses ih =>
    rw [after_cons, ih, List.mem_cons, not_or, ← and_assoc]
    refine and_congr_left fun _ => ?_
    cases use <;> simp [step, drop]

/-- One more use adds a signaller to those that are alive, or takes one away. -/
theorem isAlive_append_singleton_iff (barrier : Barrier) (uses : List BarrierUse)
    (use : BarrierUse) (n : Nat) :
    barrier.IsAlive (uses ++ [use]) n ↔
      (use = .issue ∧ ((barrier.after uses).step .issue).1 = .issued (some n)) ∨
        (barrier.IsAlive uses n ∧ use.spent? ≠ some n) := by
  constructor
  · rintro ⟨earlier, later, split, handed, unspent⟩
    rcases List.eq_nil_or_concat later with rfl | ⟨later, last, rfl⟩
    · obtain ⟨rfl, h⟩ := List.append_inj' split rfl
      exact .inl ⟨(List.cons.inj h).1, handed⟩
    · rw [List.concat_eq_append, ← List.cons_append, ← List.append_assoc] at split
      obtain ⟨rfl, h⟩ := List.append_inj' split rfl
      obtain rfl := (List.cons.inj h).1
      refine .inr ⟨⟨earlier, later, rfl, handed, fun other mem => ?_⟩, ?_⟩
      · exact unspent other (by simp [mem])
      · exact unspent use (by simp)
  · rintro (⟨rfl, handed⟩ | ⟨⟨earlier, later, rfl, handed, unspent⟩, kept⟩)
    · exact ⟨uses, [], rfl, handed, by simp⟩
    · refine ⟨earlier, later ++ [use], by simp, handed, fun other mem => ?_⟩
      rcases List.mem_append.mp mem with mem | mem
      · exact unspent other mem
      · rw [List.mem_singleton.mp mem]
        exact kept

/-- The live signallers of a new barrier are those that were handed out and not spent since. -/
theorem mem_live_after_iff (expected : Nat) (uses : List BarrierUse) (n : Nat) :
    n ∈ ((ofExpected expected).after uses).live ↔ (ofExpected expected).IsAlive uses n := by
  induction uses using List.reverseRecOn with
  | nil =>
    constructor
    · intro live
      cases live
    · rintro ⟨earlier, later, split, -⟩
      simp at split
  | append_singleton uses use ih =>
    have sound := (sound_ofExpected expected).after uses
    rw [after_append, after_cons, after_nil, mem_live_step_iff sound, ih,
      isAlive_append_singleton_iff]

end Barrier

end BoardDiagnostics
