import BoardDiagnostics.Concurrent.World
import BoardDiagnostics.Proofs.Activity
import BoardDiagnostics.Proofs.Transcript

/-!
# Diagnoses in a world

Work on the board and the doings of strays are off the event log.  A world without strays stays
as it is while nobody works in it.
-/

set_option autoImplicit false

namespace BoardDiagnostics

variable {σ α β : Type}

namespace World

/-- Strays step one after another, and their notes stand in that order. -/
theorem advanceStrays_cons (world : World σ) (number : Nat) (rest : List Nat) :
    world.advanceStrays (number :: rest) =
      (((world.advanceStray number).1.advanceStrays rest).1,
        (world.advanceStray number).2 ++ ((world.advanceStray number).1.advanceStrays rest).2) := rfl

/-- A stray publishes nothing. -/
theorem events_advanceStray (world : World σ) (number : Nat) :
    Transcript.events (world.advanceStray number).2 = [] := by
  unfold advanceStray
  split
  · rfl
  · exact Transcript.events_map_note _

/-- Strays publish nothing. -/
@[simp] theorem events_advanceStrays (world : World σ) (numbers : List Nat) :
    Transcript.events (world.advanceStrays numbers).2 = [] := by
  induction numbers generalizing world with
  | nil => rfl
  | cons number rest ih =>
    rw [advanceStrays_cons, Transcript.events_append, events_advanceStray, ih, List.append_nil]

/-- In a world without strays, none of them steps. -/
theorem advanceStrays_of_calm {world : World σ} (calm : world.strays = []) (numbers : List Nat) :
    world.advanceStrays numbers = (world, []) := by
  induction numbers with
  | nil => rfl
  | cons number rest ih =>
    have stays : world.advanceStray number = (world, []) := by
      unfold advanceStray
      rw [calm]
      rfl
    rw [advanceStrays_cons, stays]
    exact ih

end World

namespace Diagnosis

/-- A printed line stands in front of what follows, and leaves the world alone. -/
@[simp] theorem say_bind_apply (line : Line) (next : Unit → Diagnosis σ β) (world : World σ) :
    (say line >>= next) world =
      ⟨(next () world).result, (next () world).state, .line line :: (next () world).notes⟩ := rfl

/-- A published event is all that publishing does. -/
@[simp] theorem publish_apply (event : Event) (world : World σ) :
    publish event world = ⟨.ok (), world, [.event event]⟩ := rfl

/-- What follows a pause finds the world as the strays leave it. -/
@[simp] theorem pause_bind_apply (numbers : List Nat) (next : Unit → Diagnosis σ β)
    (world : World σ) :
    (pause numbers >>= next) world =
      ⟨(next () (world.advanceStrays numbers).1).result,
        (next () (world.advanceStrays numbers).1).state,
        (world.advanceStrays numbers).2 ++ (next () (world.advanceStrays numbers).1).notes⟩ := rfl

/-- What follows work on the board finds the board as the work leaves it, and the strays as they
were. -/
theorem onBoard_bind_apply (work : Work σ α) (next : Reply α → Diagnosis σ β)
    {world after : World σ} (worked : after = { world with board := (work world.board).state }) :
    (onBoard work >>= next) world =
      ⟨(next (work world.board).result after).result, (next (work world.board).result after).state,
        (work world.board).notes.map .note ++ (next (work world.board).result after).notes⟩ := by
  rw [worked]
  rfl

end Diagnosis

end BoardDiagnostics
