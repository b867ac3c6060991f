import BoardDiagnostics.Concurrent.Signal
import BoardDiagnostics.Concurrent.Unit

/-!
# Tasks

A launched unit goes its way in four steps, between which anything else may happen: it writes
its header, runs its body, reports how the body ended, and sends its signal.
-/

set_option autoImplicit false

namespace BoardDiagnostics

/-- How far a task has come. -/
inductive Progress where
  | queued
  /-- The header is written. -/
  | begun
  /-- The body has ended. -/
  | ended (outcome : Outcome)
  /-- The end of the body is reported. -/
  | reported (outcome : Outcome)
  /-- The signal is sent, and the task is over. -/
  | signalled
  deriving DecidableEq, Repr

/-- A launched unit. -/
structure Task (σ : Type) where
  unit : CheckUnit σ
  /-- The number of the signaller that the task holds. -/
  signaller : Nat
  /-- How long the task takes. -/
  elapsed : Duration
  progress : Progress

/-- What a step of a task does. -/
structure TaskStep (σ : Type) where
  task : Task σ
  board : σ
  notes : List Note
  /-- The signal that is sent, if any. -/
  signal : Option Signal

namespace Task

variable {σ : Type}

/-- A task that was just launched. -/
def launch (unit : CheckUnit σ) (signaller : Nat) (elapsed : Duration) : Task σ :=
  ⟨unit, signaller, elapsed, .queued⟩

/-- The task is over. -/
def isOver (task : Task σ) : Bool :=
  match task.progress with
  | .signalled => true
  | _ => false

/-- The line that reports a failed or broken-off check, if it is one. -/
def failureLine? (name : String) : Outcome → Option Line
  | .passed => none
  | .failed reason => some (.warn (name ++ " check failed: " ++ reason))
  | .aborted reason => some (.error (name ++ " check panicked: " ++ reason))

/-- The lines that report the end of a body. -/
def reportLines (task : Task σ) (outcome : Outcome) : List Line :=
  (failureLine? task.unit.name outcome).toList ++
    [.info ("completed " ++ task.unit.name ++ " (" ++ task.elapsed.text ++ ")")]

/-- The next step of a task on a board. -/
def advance (task : Task σ) (board : σ) : TaskStep σ :=
  match task.progress with
  | .queued =>
    let header := Line.info (Console.sectionHeader task.unit.title)
    ⟨{ task with progress := .begun }, board, [.line header.ofUnit], none⟩
  | .begun =>
    let course := task.unit.body board
    ⟨{ task with progress := .ended (.ofReply course.result) }, course.state,
      course.notes.map Note.ofUnit, none⟩
  | .ended outcome =>
    ⟨{ task with progress := .reported outcome }, board,
      (task.reportLines outcome).map fun line => .line line.ofUnit, none⟩
  | .reported outcome =>
    ⟨{ task with progress := .signalled }, board, [],
      some ⟨task.unit.name, task.elapsed, outcome⟩⟩
  | .signalled => ⟨task, board, [], none⟩

end Task

end BoardDiagnostics
