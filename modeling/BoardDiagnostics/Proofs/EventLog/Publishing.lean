import BoardDiagnostics.EventLog.Session

/-!
# Publishing to a shared log

A log that is used again and again has taken in the events that the uses publish, whichever handle
they go through, and nothing else.  Its history counts all of them and keeps the latest ones.  The
main statement, `history_counts_over_every_sequence`, says how its counts go together: for every
capacity but zero they add up, and a history of capacity zero keeps every event, since it counts as
full only while it is empty.
-/

set_option autoImplicit false

namespace BoardDiagnostics

/-- The event that a use publishes. -/
def LogUse.event? : LogUse → Option Event
  | .publish event => some event
  | .clone | .subscribe | .snapshot | .receive _ | .close => none

/-- The events that uses publish, in order. -/
def published (uses : List LogUse) : List Event := uses.filterMap LogUse.event?

/-- Uses publish one after another. -/
@[simp] theorem published_append (uses more : List LogUse) :
    published (uses ++ more) = published uses ++ published more := List.filterMap_append

/-- What each event keeps true of a state and the events that it was told of is kept true by any
number of events. -/
theorem told_foldl {β : Type} {Told : β → List Event → Prop} {push : β → Event → β}
    (step : ∀ {b : β} {events : List Event}, Told b events →
      ∀ event, Told (push b event) (events ++ [event]))
    {b : β} {events : List Event} (told : Told b events) (more : List Event) :
    Told (more.foldl push b) (events ++ more) := by
  induction more generalizing b events with
  | nil => simpa using told
  | cons event more ih =>
    have rest := ih (step told event)
    rwa [List.append_assoc, List.singleton_append] at rest

/-! ### Uses one after another -/

namespace SharedLog

/-- The log after some uses. -/
def after (shared : SharedLog) (uses : List LogUse) : SharedLog := (shared.run uses).2

/-- The answers to some uses, in order. -/
def answers (shared : SharedLog) (uses : List LogUse) : List LogAnswer := (shared.run uses).1

/-- Without uses, a log stays as it is. -/
@[simp] theorem after_nil (shared : SharedLog) : shared.after [] = shared := rfl

/-- The first use of a sequence comes first. -/
@[simp] theorem after_cons (shared : SharedLog) (use : LogUse) (uses : List LogUse) :
    shared.after (use :: uses) = (shared.step use).2.after uses := rfl

/-- Without uses there are no answers. -/
@[simp] theorem answers_nil (shared : SharedLog) : shared.answers [] = [] := rfl

/-- The first use is answered first. -/
@[simp] theorem answers_cons (shared : SharedLog) (use : LogUse) (uses : List LogUse) :
    shared.answers (use :: uses) = (shared.step use).1 :: (shared.step use).2.answers uses := rfl

/-- Uses go on from where those before them led. -/
theorem after_append (shared : SharedLog) (uses more : List LogUse) :
    shared.after (uses ++ more) = (shared.after uses).after more := by
  induction uses generalizing shared with
  | nil => rfl
  | cons use uses ih => rw [List.cons_append, after_cons, after_cons, ih]

/-- Uses are answered behind those before them, from where these led. -/
theorem answers_append (shared : SharedLog) (uses more : List LogUse) :
    shared.answers (uses ++ more) = shared.answers uses ++ (shared.after uses).answers more := by
  induction uses generalizing shared with
  | nil => rfl
  | cons use uses ih => rw [List.cons_append, answers_cons, answers_cons, after_cons, ih,
      List.cons_append]

/-- Each use has one answer. -/
theorem length_answers (shared : SharedLog) (uses : List LogUse) :
    (shared.answers uses).length = uses.length := by
  induction uses generalizing shared with
  | nil => rfl
  | cons use uses ih => rw [answers_cons, List.length_cons, List.length_cons, ih]

/-- A use does to the log itself what publishing its event does, if it has one. -/
theorem log_step (shared : SharedLog) (use : LogUse) :
    (shared.step use).2.log = shared.log.publishAll use.event?.toList := by
  cases use with
  | publish | clone | subscribe | snapshot | close => rfl
  | receive n =>
    simp only [step]
    split <;> rfl

/-- The log has been fed with the published events. -/
theorem log_after (shared : SharedLog) (uses : List LogUse) :
    (shared.after uses).log = shared.log.publishAll (published uses) := by
  induction uses generalizing shared with
  | nil => rfl
  | cons use uses ih =>
    have first : published (use :: uses) = use.event?.toList ++ published uses := by
      rw [published, List.filterMap_cons]
      cases use.event? <;> rfl
    rw [after_cons, ih, log_step, first]
    exact List.foldl_append.symm

end SharedLog

/-! ### What a history keeps -/

namespace History

/-- A history keeps as many events as it shows. -/
theorem length_kept (history : History) : history.kept.size = history.recent.length :=
  history.kept.length_toList.symm

/-- An event leaves the capacity of a history alone. -/
@[simp] theorem capacity_push (history : History) (event : Event) :
    (history.push event).capacity = history.capacity := by
  unfold push
  split <;> rfl

/-- Each event is counted. -/
@[simp] theorem total_push (history : History) (event : Event) :
    (history.push event).total = history.total + 1 := by
  unfold push
  split <;> rfl

/-- A dropped event is counted exactly if the history is full when a new one comes. -/
theorem dropped_push (history : History) (event : Event) :
    (history.push event).dropped =
      history.dropped + if history.recent.length = history.capacity then 1 else 0 := by
  unfold push
  rw [length_kept]
  split <;> rfl

/-- A history tells of events: it has counted them, and keeps the latest of them up to its capacity.
One of capacity zero keeps all of them and counts one as dropped. -/
structure Tells (history : History) (events : List Event) : Prop where
  total_eq : history.total = events.length
  of_pos : 0 < history.capacity →
    history.recent = events.drop (events.length - history.capacity) ∧
      history.dropped = events.length - history.capacity
  of_zero : history.capacity = 0 → history.recent = events ∧ history.dropped = min events.length 1

/-- An empty history tells of no events. -/
theorem tells_ofCapacity (capacity : Nat) : (ofCapacity capacity).Tells [] :=
  ⟨rfl, fun _ => ⟨by simp [ofCapacity, recent], (Nat.zero_sub _).symm⟩, fun _ => ⟨rfl, rfl⟩⟩

/-- A history that tells of events tells of one more when that is added. -/
theorem Tells.push {history : History} {events : List Event} (tells : history.Tells events)
    (event : Event) : (history.push event).Tells (events ++ [event]) := by
  constructor
  case total_eq => simp [tells.total_eq]
  case of_pos =>
    intro room
    rw [capacity_push] at room ⊢
    obtain ⟨recent, dropped⟩ := tells.of_pos room
    have kept : history.recent.length = events.length - (events.length - history.capacity) := by
      rw [recent, List.length_drop]
    rw [recent_push, dropped_push, List.length_append, List.length_singleton]
    by_cases full : history.capacity ≤ events.length
    · rw [if_pos (by omega), if_pos (by omega), recent, dropped, List.drop_drop,
        List.drop_append_of_le_length (by omega)]
      refine ⟨?_, by omega⟩
      congr 2
      omega
    · rw [if_neg (by omega), if_neg (by omega), recent, dropped,
        List.drop_append_of_le_length (by omega)]
      refine ⟨?_, by omega⟩
      congr 2
      omega
  case of_zero =>
    intro none
    rw [capacity_push] at none
    obtain ⟨recent, dropped⟩ := tells.of_zero none
    rw [recent_push, dropped_push, recent, dropped, none, List.length_append,
      List.length_singleton]
    -- Only the first event finds as many events kept as there is room for.
    cases events with
    | nil => exact ⟨rfl, rfl⟩
    | cons first later => simp

/-- A history that tells of events tells of all that are added. -/
theorem Tells.pushAll {history : History} {events : List Event} (tells : history.Tells events)
    (more : List Event) : (more.foldl History.push history).Tells (events ++ more) :=
  told_foldl (fun tells event => tells.push event) tells more

end History

namespace EventLog

/-- Publishing feeds the history with each event, in order. -/
theorem history_publishAll (log : EventLog) (events : List Event) :
    (log.publishAll events).history = events.foldl History.push log.history := by
  induction events generalizing log with
  | nil => rfl
  | cons event events ih => exact ih (log.publish event)

/-- Publishing leaves the capacity of the history alone. -/
theorem capacity_publishAll (log : EventLog) (events : List Event) :
    (log.publishAll events).history.capacity = log.history.capacity := by
  induction events generalizing log with
  | nil => rfl
  | cons event events ih => exact (ih (log.publish event)).trans (History.capacity_push _ _)

/-- A log that can be made at all is an empty log of the sizes that were asked for. -/
theorem eq_ofSizes_of_create {buffer capacity : Nat} {log : EventLog}
    (made : create buffer capacity = .ok log) : log = ofSizes buffer capacity := by
  unfold create at made
  split at made
  · cases made
  · split at made
    · cases made
    · split at made
      · cases made
      · exact (Except.ok.inj made).symm

end EventLog

namespace SharedLog

section

variable {buffer capacity : Nat} {log : EventLog}
  (made : EventLog.create buffer capacity = .ok log) (uses : List LogUse)

include made

/-- After any uses, the history tells of the events that were published. -/
theorem tells_after : ((ofLog log).after uses).log.history.Tells (published uses) := by
  obtain rfl := EventLog.eq_ofSizes_of_create made
  rw [log_after, EventLog.history_publishAll]
  exact (History.tells_ofCapacity capacity).pushAll (published uses)

/-- No uses change the capacity of the history. -/
theorem capacity_after : ((ofLog log).after uses).log.history.capacity = capacity := by
  obtain rfl := EventLog.eq_ofSizes_of_create made
  rw [log_after, EventLog.capacity_publishAll]
  rfl

/-- The counts that a log shows after any sequence of uses.  All events are counted.  With room for
any event at all, the history keeps no more events than it has room for, and every event is either
kept or counted as dropped.  Without room for any, it keeps them all and counts no more than one as
dropped. -/
theorem history_counts_over_every_sequence :
    ∃ shown, (((ofLog log).after uses).step .snapshot).1 = .snapshot shown ∧
      shown.total = (published uses).length ∧
      (0 < capacity → shown.recent.length ≤ capacity ∧
        shown.dropped + shown.recent.length = shown.total ∧
        shown.dropped = shown.total - shown.recent.length) ∧
      (capacity = 0 → shown.recent.length = shown.total ∧ shown.dropped = min shown.total 1) := by
  have tells := tells_after made uses
  have room := capacity_after made uses
  refine ⟨_, rfl, tells.total_eq, fun some => ?_, fun none => ?_⟩
  · obtain ⟨recent, dropped⟩ := tells.of_pos (room ▸ some)
    have kept := congrArg List.length recent
    have total := tells.total_eq
    rw [List.length_drop, room] at kept
    rw [room] at dropped
    simp only [History.snapshot]
    omega
  · obtain ⟨recent, dropped⟩ := tells.of_zero (room.trans none)
    have total := tells.total_eq
    simp only [History.snapshot]
    rw [recent, dropped, total]
    exact ⟨rfl, rfl⟩

end

/-- Three events through two handles, with room for two of them. -/
theorem history_counts_after_third_event :
    EventLog.create 4 2 = .ok (.ofSizes 4 2) ∧
      let uses : List LogUse := [.publish (.unitLaunched "a"), .clone, .publish (.unitLaunched "b"),
        .publish (.unitLaunched "c")]
      ∃ shown, (((ofLog (.ofSizes 4 2)).after uses).step .snapshot).1 = .snapshot shown ∧
        shown.total = 3 ∧ shown.recent.length ≤ 2 ∧ shown.dropped = 3 - shown.recent.length := by
  have made : EventLog.create 4 2 = .ok (.ofSizes 4 2) := by rfl
  refine ⟨made, ?_⟩
  intro uses
  obtain ⟨shown, answered, total, bounded, -⟩ := history_counts_over_every_sequence made uses
  obtain ⟨few, -, dropped⟩ := bounded (by decide)
  have three : shown.total = 3 := total
  exact ⟨shown, answered, three, few, three ▸ dropped⟩

/-- A history without room for any event keeps two of two events and counts one as dropped. -/
theorem capacity_zero_bounds_nothing :
    EventLog.create 4 0 = .ok (.ofSizes 4 0) ∧
      ¬ ∀ uses shown, (((ofLog (.ofSizes 4 0)).after uses).step .snapshot).1 = .snapshot shown →
        shown.recent.length ≤ 0 ∧ shown.total = (published uses).length ∧
          shown.dropped = shown.total - shown.recent.length := by
  refine ⟨by rfl, fun bounded => ?_⟩
  have twice := bounded [.publish .deviceModeEntered, .publish .deviceModeEntered]
    ⟨[.deviceModeEntered, .deviceModeEntered], 2, 1⟩ rfl
  exact absurd twice.1 (by decide)

end SharedLog

end BoardDiagnostics
