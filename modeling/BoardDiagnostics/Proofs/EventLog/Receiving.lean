import BoardDiagnostics.Proofs.EventLog.Publishing
import Mathlib.Data.List.Induction

/-!
# History and stream tell the same story

A receiver goes through the events that were published since it subscribed, one after another, and
each of them is either received or counted as missed.  It misses events exactly when more of them
are unread than the ring holds, and then all that the ring has lost.  The main statement,
`history_and_stream_agree`, holds of every log with room for an event and every sequence of uses:
its history is the end of the list of published events, and every receiver follows that list from
the place where it subscribed.
-/

set_option autoImplicit false

namespace BoardDiagnostics

/-! ### The size of the ring -/

/-- The least power of two above a number is a power of two. -/
theorem isPowerOfTwo_powerOfTwoAbove (n : Nat) : (powerOfTwoAbove n).isPowerOfTwo := by
  unfold powerOfTwoAbove
  split
  · exact Nat.isPowerOfTwo_one
  · exact ⟨_, Nat.one_shiftLeft _⟩

/-- The least power of two above a number is not below it. -/
theorem le_powerOfTwoAbove (n : Nat) : n ≤ powerOfTwoAbove n := by
  unfold powerOfTwoAbove
  split
  · assumption
  · have := Nat.lt_log2_self (n := n - 1)
    rw [Nat.one_shiftLeft]
    omega

/-- A power of two that a number fits in is not below the least one. -/
theorem powerOfTwoAbove_le {n m : Nat} (power : m.isPowerOfTwo) (fits : n ≤ m) :
    powerOfTwoAbove n ≤ m := by
  unfold powerOfTwoAbove
  split
  · exact Nat.pos_of_isPowerOfTwo power
  · next above =>
    obtain ⟨k, rfl⟩ := power
    have below : Nat.log2 (n - 1) < k := (Nat.log2_lt (by omega)).mpr (by omega)
    rw [Nat.one_shiftLeft]
    exact Nat.pow_le_pow_right (by decide) below

/-! ### What a stream keeps -/

namespace Stream

/-- A stream tells of events: it has sent them, and its ring keeps the latest of them. -/
structure Tells (stream : Stream) (events : List Event) : Prop where
  ring_pos : 0 < stream.ring
  sent_eq : stream.sent = events.length
  kept_eq : stream.kept.toList = events.drop (events.length - stream.ring)

/-- An empty stream tells of no events. -/
theorem tells_ofBuffer (buffer : Nat) : (ofBuffer buffer).Tells [] where
  ring_pos := Nat.pos_of_isPowerOfTwo (isPowerOfTwo_powerOfTwoAbove _)
  sent_eq := rfl
  kept_eq := by simp [ofBuffer]

variable {stream : Stream} {events : List Event}

/-- A stream keeps all events until its ring is full, and then as many as that holds. -/
theorem Tells.size_eq (tells : stream.Tells events) :
    stream.kept.size = events.length - (events.length - stream.ring) := by
  rw [← Queue.length_toList, tells.kept_eq, List.length_drop]

/-- The oldest event that is kept has as many before it as the ring has lost. -/
theorem Tells.oldest_eq (tells : stream.Tells events) :
    stream.oldest = events.length - stream.ring := by
  rw [oldest, tells.size_eq, tells.sent_eq]
  omega

/-- A stream that tells of events tells of one more when that is sent. -/
theorem Tells.push (tells : stream.Tells events) (event : Event) :
    (stream.push event).Tells (events ++ [event]) := by
  have size := tells.size_eq
  constructor
  case ring_pos => exact tells.ring_pos
  case sent_eq => simp [Stream.push, tells.sent_eq]
  case kept_eq =>
    have shorter : events.length + 1 - stream.ring ≤ events.length := by
      have := tells.ring_pos
      omega
    simp only [Stream.push, Queue.toList_push, List.length_append, List.length_singleton]
    rw [List.drop_append_of_le_length shorter]
    split
    · rw [tells.kept_eq]
      congr 2
      omega
    · rw [Queue.toList_dropOldest, tells.kept_eq, List.drop_drop]
      congr 2
      omega

/-- An event that the ring has not lost is kept under its number. -/
theorem Tells.get?_eq (tells : stream.Tells events) (number : Nat)
    (kept : events.length - stream.ring ≤ number) :
    stream.kept.get? (number - stream.oldest) = events[number]? := by
  rw [Queue.get?_eq_getElem?_toList, tells.kept_eq, tells.oldest_eq, List.getElem?_drop]
  congr 1
  omega

end Stream

/-! ### What receivers are told -/

/-- How many events an answer takes a receiver on. -/
def Received.passed : Received → Nat
  | .event _ => 1
  | .lagged count => count
  | .empty | .closed => 0

/-- How many events a receiver has received or missed. -/
def passed : List Received → Nat
  | [] => 0
  | received :: got => received.passed + passed got

/-- A receiver passes events one answer after another. -/
theorem passed_append (got more : List Received) :
    passed (got ++ more) = passed got + passed more := by
  induction got with
  | nil => exact (Nat.zero_add _).symm
  | cons received got ih => rw [List.cons_append, passed, passed, ih, Nat.add_assoc]

/-- Answers cover events: each event in its turn is received, or is one of those that are counted as
missed. -/
inductive Covers : List Received → List Event → Prop where
  | nil : Covers [] []
  | event {got : List Received} {events : List Event} (event : Event) (rest : Covers got events) :
      Covers (.event event :: got) (event :: events)
  | lagged {got : List Received} {events : List Event} (missed : List Event)
      (rest : Covers got events) : Covers (.lagged missed.length :: got) (missed ++ events)
  | empty {got : List Received} {events : List Event} (rest : Covers got events) :
      Covers (.empty :: got) events
  | closed {got : List Received} {events : List Event} (rest : Covers got events) :
      Covers (.closed :: got) events

namespace Covers

variable {got more : List Received} {events others : List Event}

/-- Answers that cover events pass as many as there are. -/
theorem length_eq (covers : Covers got events) : events.length = passed got := by
  induction covers with
  | nil => rfl
  | event event rest ih => simp only [List.length_cons, passed, Received.passed, ih]; omega
  | lagged missed rest ih => simp only [List.length_append, passed, Received.passed, ih]
  | empty rest ih | closed rest ih => simp only [passed, Received.passed, ih, Nat.zero_add]

/-- Answers that cover events and answers that cover those behind them cover both. -/
theorem append (covers : Covers got events) (other_covers : Covers more others) :
    Covers (got ++ more) (events ++ others) := by
  induction covers with
  | nil => exact other_covers
  | event event rest ih => exact .event event ih
  | lagged missed rest ih =>
    rw [List.append_assoc]
    exact .lagged missed ih
  | empty rest ih => exact .empty ih
  | closed rest ih => exact .closed ih

/-- An event that was received has as many events before it as were received or missed before. -/
theorem getElem?_event {earlier later : List Received} {event : Event}
    (covers : Covers (earlier ++ .event event :: later) events) :
    events[passed earlier]? = some event := by
  induction earlier generalizing events with
  | nil =>
    cases covers with
    | event event rest => rfl
  | cons received earlier ih =>
    cases covers with
    | event first rest =>
      rw [passed, Received.passed, Nat.add_comm, List.getElem?_cons_succ]
      exact ih rest
    | lagged missed rest =>
      rw [passed, Received.passed, List.getElem?_append_right (Nat.le_add_right _ _),
        Nat.add_sub_cancel_left]
      exact ih rest
    | empty rest | closed rest =>
      rw [passed, Received.passed, Nat.zero_add]
      exact ih rest

end Covers

/-- What a receiver gets next, by the events that it has not read: if they are more than the ring
holds, the number of those that the ring has lost; otherwise the first of them; and without any,
that there is none yet, or will be none any more. -/
inductive Next (ring : Nat) (isOpen : Prop) : List Event → Received → Prop where
  | lagged {unread : List Event} (behind : ring < unread.length) :
      Next ring isOpen unread (.lagged (unread.length - ring))
  | event {event : Event} {rest : List Event} (kept : rest.length < ring) :
      Next ring isOpen (event :: rest) (.event event)
  | empty (opened : isOpen) : Next ring isOpen [] .empty
  | closed (closed : ¬ isOpen) : Next ring isOpen [] .closed

/-- A receiver gets what comes next, and goes on behind the events that the answer covers. -/
theorem Stream.Tells.receive_next {stream : Stream} {told unread : List Event}
    (tells : stream.Tells (told ++ unread)) (isOpen : Bool) :
    ∃ next gone rest, stream.receive isOpen ⟨told.length⟩ = (next, ⟨told.length + gone.length⟩) ∧
      Next stream.ring (isOpen = true) unread next ∧ unread = gone ++ rest ∧
      Covers [next] gone := by
  have sent : (told ++ unread).length = told.length + unread.length := List.length_append
  have oldest := tells.oldest_eq
  rw [sent] at oldest
  unfold Stream.receive
  by_cases behind : stream.ring < unread.length
  · have missed : (unread.take (unread.length - stream.ring)).length =
        unread.length - stream.ring := by
      rw [List.length_take]
      omega
    have lost : stream.oldest - told.length = unread.length - stream.ring := by omega
    have kept : stream.oldest = told.length + (unread.length - stream.ring) := by omega
    refine ⟨.lagged (unread.length - stream.ring), unread.take (unread.length - stream.ring),
      unread.drop (unread.length - stream.ring), ?_, .lagged behind,
      (List.take_append_drop _ _).symm, ?_⟩
    · have late : told.length < stream.oldest := by omega
      rw [if_pos late, lost, missed, kept]
    · have covers := Covers.lagged (unread.take (unread.length - stream.ring)) .nil
      rwa [missed, List.append_nil] at covers
  · have near : ¬ told.length < stream.oldest := by omega
    have here := tells.get?_eq told.length (by omega)
    rw [List.getElem?_append_right (Nat.le_refl _), Nat.sub_self] at here
    simp only [if_neg near, here]
    cases unread with
    | nil =>
      refine ⟨if isOpen then .empty else .closed, [], [], rfl, ?_, rfl, ?_⟩
      · cases isOpen with
        | true => exact .empty rfl
        | false => exact .closed nofun
      · cases isOpen with
        | true => exact .empty .nil
        | false => exact .closed .nil
    | cons event rest =>
      rw [List.length_cons] at behind
      exact ⟨.event event, [event], rest, rfl, .event (by omega), rfl, .event event .nil⟩

/-! ### Receivers of a shared log -/

/-- What a receiver gets by a use, according to the answer. -/
def LogUse.got? (n : Nat) : LogUse → LogAnswer → Option Received
  | .receive m, .received received => if m = n then some received else none
  | _, _ => none

namespace EventLog

/-- Publishing feeds the stream with each event, in order. -/
theorem stream_publishAll (log : EventLog) (events : List Event) :
    (log.publishAll events).stream = events.foldl Stream.push log.stream := by
  induction events generalizing log with
  | nil => rfl
  | cons event events ih => exact ih (log.publish event)

/-- A stream that tells of events tells of all that are published. -/
theorem tells_stream_publishAll {log : EventLog} {events : List Event}
    (tells : log.stream.Tells events) (more : List Event) :
    (log.publishAll more).stream.Tells (events ++ more) := by
  rw [stream_publishAll]
  exact told_foldl (fun tells event => tells.push event) tells more

/-- Publishing leaves the size of the ring alone. -/
theorem ring_publishAll (log : EventLog) (events : List Event) :
    (log.publishAll events).stream.ring = log.stream.ring := by
  induction events generalizing log with
  | nil => rfl
  | cons event events ih => exact ih (log.publish event)

end EventLog

namespace SharedLog

/-- What a receiver gets by some uses, in order. -/
def got (shared : SharedLog) (n : Nat) (uses : List LogUse) : List Received :=
  (uses.zip (shared.answers uses)).filterMap fun entry => entry.1.got? n entry.2

/-- What a receiver gets from one more use comes last. -/
theorem got_append_singleton (shared : SharedLog) (n : Nat) (uses : List LogUse) (use : LogUse) :
    shared.got n (uses ++ [use]) =
      shared.got n uses ++ (use.got? n ((shared.after uses).step use).1).toList := by
  unfold got
  rw [answers_append, List.zip_append (length_answers shared uses).symm, List.filterMap_append,
    answers_cons, answers_nil, List.zip_cons_cons, List.zip_nil_right, List.filterMap_cons]
  cases use.got? n ((shared.after uses).step use).1 <;> rfl

/-- A log stays open as long as nothing closes it. -/
theorem isOpen_after_iff (shared : SharedLog) (uses : List LogUse) :
    (shared.after uses).isOpen = true ↔ shared.isOpen = true ∧ .close ∉ uses := by
  induction uses generalizing shared with
  | nil => simp
  | cons use uses ih =>
    rw [after_cons, ih, List.mem_cons, not_or, ← and_assoc]
    refine and_congr_left fun _ => ?_
    cases use with
    | publish | clone | subscribe | snapshot | close => simp [step]
    | receive n =>
      simp only [step]
      split <;> simp

/-- A use of another receiver, or of none, leaves a receiver where it is and tells it nothing. -/
theorem step_of_other {shared : SharedLog} {n : Nat} {receiver : Receiver}
    (known : shared.receivers[n]? = some receiver) {use : LogUse} (other : use ≠ .receive n) :
    (shared.step use).2.receivers[n]? = some receiver ∧ use.got? n (shared.step use).1 = none := by
  have within := (List.getElem?_eq_some_iff.mp known).1
  cases use with
  | publish | clone | snapshot | close => exact ⟨known, rfl⟩
  | subscribe => exact ⟨(List.getElem?_append_left within).trans known, rfl⟩
  | receive m =>
    have ne : m ≠ n := fun same => other (same ▸ rfl)
    simp only [step]
    split
    · exact ⟨known, if_neg ne⟩
    · exact ⟨(List.getElem?_set_ne ne).trans known, if_neg ne⟩

/-- A receiver is answered by the stream, and moves to where the stream moves it. -/
theorem step_receive {shared : SharedLog} {n : Nat} {receiver : Receiver}
    (known : shared.receivers[n]? = some receiver) {next : Received} {moved : Receiver}
    (receives : shared.log.stream.receive shared.isOpen receiver = (next, moved)) :
    (shared.step (.receive n)).1 = .received next ∧
      (shared.step (.receive n)).2.receivers[n]? = some moved := by
  have within := (List.getElem?_eq_some_iff.mp known).1
  simp only [step, known, receives]
  exact ⟨trivial, List.getElem?_set_self within⟩

/-- After any uses, the stream tells of the events that were published. -/
theorem tells_stream_after {shared : SharedLog} {events : List Event}
    (tells : shared.log.stream.Tells events) (uses : List LogUse) :
    (shared.after uses).log.stream.Tells (events ++ published uses) := by
  rw [log_after]
  exact EventLog.tells_stream_publishAll tells (published uses)

/-- A receiver that has read everything is from then on always behind the events that it was told
of. -/
theorem receivers_after {shared : SharedLog} {events : List Event}
    (tells : shared.log.stream.Tells events) {n : Nat}
    (known : shared.receivers[n]? = some ⟨events.length⟩) (uses : List LogUse) :
    ∃ told unread, published uses = told ++ unread ∧ Covers (shared.got n uses) told ∧
      (shared.after uses).receivers[n]? = some ⟨(events ++ told).length⟩ := by
  induction uses using List.reverseRecOn with
  | nil => exact ⟨[], [], rfl, .nil, by simpa using known⟩
  | append_singleton uses use ih =>
    obtain ⟨told, unread, order, covers, place⟩ := ih
    rw [published_append, got_append_singleton, after_append, after_cons, after_nil, order]
    by_cases own : use = .receive n
    · subst own
      have now := tells_stream_after tells uses
      rw [order, ← List.append_assoc] at now
      obtain ⟨next, gone, rest, receives, -, split, more⟩ :=
        now.receive_next (shared.after uses).isOpen
      obtain ⟨answer, moved⟩ := step_receive place receives
      refine ⟨told ++ gone, rest, ?_, ?_, ?_⟩
      · rw [split]
        simp [published, LogUse.event?]
      · rw [answer]
        simpa [LogUse.got?] using covers.append more
      · rw [moved, ← List.length_append, List.append_assoc]
    · obtain ⟨stays, silent⟩ := step_of_other place own
      refine ⟨told, unread ++ published [use], List.append_assoc _ _ _, ?_, stays⟩
      simpa [silent] using covers

/-- A receiver that subscribed between earlier uses and later ones follows the events of the later
ones. -/
structure Follows (log : EventLog) (before later : List LogUse) (n : Nat) : Prop where
  /-- The answers that it got cover the first of these events; the next answer is about those that
  are left. -/
  partition : ∃ told unread next, published later = told ++ unread ∧
    Covers (((ofLog log).after (before ++ [.subscribe])).got n later) told ∧
    (((ofLog log).after (before ++ .subscribe :: later)).step (.receive n)).1 = .received next ∧
    Next log.stream.ring (.close ∉ before ++ .subscribe :: later) unread next
  /-- An event that it received has its number among all events: those before it subscribed, and
  those that it received or missed. -/
  numbered : ∀ earlier event rest,
    ((ofLog log).after (before ++ [.subscribe])).got n later = earlier ++ .event event :: rest →
      (published (before ++ .subscribe :: later))[(published before).length + passed earlier]? =
        some event
  /-- It is told only once that it has missed events: if it asks again at once, it gets one. -/
  lagged_once : ∀ count,
    (((ofLog log).after (before ++ .subscribe :: later)).step (.receive n)).1 =
        .received (.lagged count) →
      ∃ event, (((ofLog log).after (before ++ .subscribe :: (later ++ [.receive n]))).step
        (.receive n)).1 = .received (.event event)

/-- What follows a subscription goes on from the log with the new receiver. -/
theorem after_subscribed (shared : SharedLog) (before later : List LogUse) :
    shared.after (before ++ .subscribe :: later) =
      (shared.after (before ++ [.subscribe])).after later := by
  rw [← after_append, List.append_assoc, List.singleton_append]

section

variable {buffer capacity : Nat} {log : EventLog}
  (made : EventLog.create buffer capacity = .ok log)

include made

/-- A new receiver waits for the first event that is published after it has subscribed. -/
theorem receivers_of_subscribed {before : List LogUse} {n : Nat}
    (subscribed : (((ofLog log).after before).step .subscribe).1 = .receiver n) :
    ((ofLog log).after (before ++ [.subscribe])).log.stream.Tells (published before) ∧
      ((ofLog log).after (before ++ [.subscribe])).receivers[n]? =
        some ⟨(published before).length⟩ := by
  obtain rfl := EventLog.eq_ofSizes_of_create made
  have new : (ofLog (.ofSizes buffer capacity)).log.stream.Tells [] :=
    Stream.tells_ofBuffer buffer
  have tells := tells_stream_after new before
  rw [after_append]
  refine ⟨tells, ?_⟩
  obtain rfl := LogAnswer.receiver.inj subscribed
  have place : (((ofLog (.ofSizes buffer capacity)).after before).receivers ++
      [((ofLog (.ofSizes buffer capacity)).after before).log.stream.subscribe])[
        ((ofLog (.ofSizes buffer capacity)).after before).receivers.length]? =
      some ((ofLog (.ofSizes buffer capacity)).after before).log.stream.subscribe :=
    List.getElem?_concat_length
  exact place.trans (congrArg (fun sent => some (Receiver.mk sent)) tells.sent_eq)

section

variable {before : List LogUse} {n : Nat}
  (subscribed : (((ofLog log).after before).step .subscribe).1 = .receiver n)

include subscribed

/-- A receiver has been told of the first events since it subscribed, and the next answer is about
those that are unread. -/
theorem partition_after (later : List LogUse) :
    ∃ told unread next, published later = told ++ unread ∧
      Covers (((ofLog log).after (before ++ [.subscribe])).got n later) told ∧
      (((ofLog log).after (before ++ .subscribe :: later)).step (.receive n)).1 =
        .received next ∧
      Next log.stream.ring (.close ∉ before ++ .subscribe :: later) unread next := by
  obtain ⟨tells, known⟩ := receivers_of_subscribed made subscribed
  obtain ⟨told, unread, order, covers, place⟩ := receivers_after tells known later
  have now := tells_stream_after tells later
  rw [order, ← List.append_assoc] at now
  rw [after_subscribed _ before later]
  obtain ⟨next, gone, rest, receives, comes, -, -⟩ := now.receive_next
    (((ofLog log).after (before ++ [.subscribe])).after later).isOpen
  refine ⟨told, unread, next, order, covers, (step_receive place receives).1, ?_⟩
  have same_ring : (((ofLog log).after (before ++ [.subscribe])).after later).log.stream.ring =
      log.stream.ring := by
    rw [log_after, log_after, EventLog.ring_publishAll, EventLog.ring_publishAll]
    rfl
  have opened : ((((ofLog log).after (before ++ [.subscribe])).after later).isOpen = true) =
      (.close ∉ before ++ .subscribe :: later) := by
    rw [← after_subscribed _ before later, isOpen_after_iff]
    exact propext ⟨fun both => both.2, fun unclosed => ⟨rfl, unclosed⟩⟩
  rwa [same_ring, opened] at comes

/-- A receiver that is told of missed events is then left with as many as the ring holds, so it gets
one of them next. -/
theorem event_after_lagged {later : List LogUse} {count : Nat}
    (lagged : (((ofLog log).after (before ++ .subscribe :: later)).step (.receive n)).1 =
      .received (.lagged count)) :
    ∃ event, (((ofLog log).after (before ++ .subscribe :: (later ++ [.receive n]))).step
      (.receive n)).1 = .received (.event event) := by
  obtain ⟨told, unread, next, order, covers, answer, comes⟩ :=
    partition_after made subscribed later
  obtain ⟨told', unread', next', order', covers', answer', comes'⟩ :=
    partition_after made subscribed (later ++ [.receive n])
  rw [answer] at lagged
  obtain rfl := LogAnswer.received.inj lagged
  have ring_left : unread'.length = log.stream.ring := by
    have silent : published (later ++ [.receive n]) = published later := by
      simp [published, LogUse.event?]
    have all : (told ++ unread).length = (told' ++ unread').length := by
      rw [← order, ← order', silent]
    have own : LogUse.got? n (.receive n) (.received (.lagged count)) = some (.lagged count) :=
      if_pos rfl
    rw [after_subscribed _ before later] at answer
    rw [got_append_singleton, answer, own] at covers'
    have here := covers.length_eq
    have further := covers'.length_eq
    rw [passed_append] at further
    simp only [List.length_append, Option.toList_some, passed, Received.passed] at all further
    cases comes with
    | lagged behind => omega
  have some_left : 0 < log.stream.ring := by
    obtain rfl := EventLog.eq_ofSizes_of_create made
    exact (Stream.tells_ofBuffer buffer).ring_pos
  cases comes' with
  | lagged behind => omega
  | event kept => exact ⟨_, answer'⟩
  | empty | closed =>
    rw [List.length_nil] at ring_left
    omega

/-- Every receiver follows the published events from the place where it subscribed. -/
theorem follows (later : List LogUse) : Follows log before later n := by
  have parts := partition_after made subscribed later
  refine ⟨parts, ?_, fun count lagged => event_after_lagged made subscribed lagged⟩
  intro earlier event rest received
  obtain ⟨told, unread, -, order, covers, -, -⟩ := parts
  rw [received] at covers
  have here := covers.getElem?_event
  have within := (List.getElem?_eq_some_iff.mp here).1
  have all : published (before ++ .subscribe :: later) = published before ++ (told ++ unread) := by
    rw [published_append, ← order]
    rfl
  rw [all, List.getElem?_append_right (Nat.le_add_right _ _), Nat.add_sub_cancel_left,
    List.getElem?_append_left within]
  exact here

end

/-- A log with room for an event tells the same story twice, after any sequence of uses.  Its
history shows the latest of all published events, as many as there is room for, and counts the
others as dropped.  Its ring is the least power of two that the buffer fits in, and every receiver
follows the events that were published after it subscribed. -/
theorem history_and_stream_agree (room : 1 ≤ capacity) (uses : List LogUse) :
    let shared := (ofLog log).after uses
    let all := published uses
    let ring := log.stream.ring
    (shared.step .snapshot).1 =
        .snapshot ⟨all.drop (all.length - capacity), all.length, all.length - capacity⟩ ∧
      (ring.isPowerOfTwo ∧ max buffer 1 ≤ ring ∧
        ∀ m : Nat, m.isPowerOfTwo → max buffer 1 ≤ m → ring ≤ m) ∧
      ∀ before later n, uses = before ++ .subscribe :: later →
        (((ofLog log).after before).step .subscribe).1 = .receiver n →
        Follows log before later n := by
  intro shared all ring
  refine ⟨?_, ?_, fun before later n order subscribed => follows made subscribed later⟩
  · have tells := tells_after made uses
    have capacity_eq := capacity_after made uses
    obtain ⟨recent, dropped⟩ := tells.of_pos (capacity_eq ▸ room)
    rw [capacity_eq] at recent dropped
    show LogAnswer.snapshot ⟨_, _, _⟩ = _
    rw [recent, dropped, tells.total_eq]
  · obtain rfl := EventLog.eq_ofSizes_of_create made
    exact ⟨isPowerOfTwo_powerOfTwoAbove _, le_powerOfTwoAbove _,
      fun m power fits => powerOfTwoAbove_le power fits⟩

end

/-- With room for one event in the history and in the ring: a receiver that missed one of the two
events that were published after it subscribed is told so, and gets the other one next. -/
theorem history_and_stream_agree_after_lag :
    let a : Event := .unitLaunched "a"
    let b : Event := .unitLaunched "b"
    let c : Event := .unitLaunched "c"
    let log := EventLog.ofSizes 1 1
    let later : List LogUse := [.publish b, .publish c, .receive 0]
    let uses := .publish a :: .subscribe :: later
    EventLog.create 1 1 = .ok log ∧
      (((ofLog log).after uses).step .snapshot).1 = .snapshot ⟨[c], 3, 2⟩ ∧
      Follows log [.publish a] later 0 ∧
      ((ofLog log).after [.publish a, .subscribe]).got 0 later = [.lagged 1] ∧
      (((ofLog log).after uses).step (.receive 0)).1 = .received (.event c) := by
  intro a b c log later uses
  have made : EventLog.create 1 1 = .ok log := by rfl
  obtain ⟨shown, -, follow⟩ := history_and_stream_agree made (Nat.le_refl 1) uses
  exact ⟨made, shown, follow [.publish a] later 0 rfl rfl, rfl, rfl⟩

end SharedLog

end BoardDiagnostics
