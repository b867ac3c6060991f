import BoardDiagnostics.Concurrent.Task
import BoardDiagnostics.Transcript

/-!
# The world of a run

A board, and the stray tasks around it: units of concurrent phases that were given up while the
units were still at work.  A stray goes on working on the board, but the barrier that its signal
was meant for is gone, so nobody receives it.
-/

set_option autoImplicit false

namespace BoardDiagnostics

/-- A board and the stray tasks around it. -/
structure World (σ : Type) where
  board : σ
  strays : List (Task σ)

/-- An activity in a world, with a transcript, which may fail with a fault. -/
abbrev Diagnosis (σ : Type) := Activity Entry (World σ) Fault

namespace World

variable {σ : Type}

/-- A world without strays. -/
def ofBoard (board : σ) : World σ := ⟨board, []⟩

/-- The next step of a stray. -/
def advanceStray (world : World σ) (number : Nat) : World σ × Transcript :=
  match world.strays[number]? with
  | none => (world, [])
  | some task =>
    let step := task.advance world.board
    (⟨step.board, world.strays.set number step.task⟩, step.notes.map .note)

/-- Steps of strays, one after another. -/
def advanceStrays (world : World σ) : List Nat → World σ × Transcript
  | [] => (world, [])
  | number :: rest =>
    let (world, first) := world.advanceStray number
    let (world, more) := advanceStrays world rest
    (world, first ++ more)

end World

namespace Diagnosis

variable {σ α : Type}

/-- Write a line. -/
def say (line : Line) : Diagnosis σ Unit := Activity.note (.line line)

/-- Publish an event. -/
def publish (event : Event) : Diagnosis σ Unit := Activity.note (.event event)

/-- Let strays go on for a while. -/
def pause (numbers : List Nat) : Diagnosis σ Unit := fun world =>
  let (world, transcript) := world.advanceStrays numbers
  ⟨.ok (), world, transcript⟩

/-- Work on the board; if the work breaks off, the panic is the result. -/
def onBoard (work : Work σ α) : Diagnosis σ (Reply α) :=
  ((work.attempt).mapNotes Entry.note).within World.board
    (fun board world => { world with board := board })

end Diagnosis

end BoardDiagnostics
