import BoardDiagnostics.Concurrent.Phase
import BoardDiagnostics.Proofs.Transcript

/-!
# Watching a phase

A phase publishes what its runner does.  What its units do is seen by watching its steps: which
body ended in which way, and which unit sent which signal, in the order in which it happened.
The watch is kept until the runner returns, like the run itself.
-/

set_option autoImplicit false

namespace BoardDiagnostics

variable {σ α : Type}

/-- The events with which units are launched. -/
def launches (names : List String) : List Event := names.map Event.unitLaunched

/-- The events with which the arrival of signals is published. -/
def completions (signals : List Signal) : List Event :=
  signals.map fun signal => .unitCompleted signal.name signal.elapsed signal.outcome

/-- The completions of two rows of signals stand in a row. -/
@[simp] theorem completions_append (signals more : List Signal) :
    completions (signals ++ more) = completions signals ++ completions more := List.map_append

/-- The unit broke off. -/
def Outcome.isAborted : Outcome → Bool
  | aborted _ => true
  | passed | failed _ => false

/-- How the body of a task ends in the next step of the task, if that step runs it. -/
def Task.bodyEnd? (task : Task σ) (board : σ) : Option (Reply CheckResult) :=
  match task.progress with
  | .begun => some (task.unit.body board).result
  | _ => none

/-- What was recorded of the unit of a number. -/
def entriesOf (number : Nat) (record : List (Nat × α)) : List α :=
  (record.filter fun entry => entry.1 = number).map Prod.snd

/-- An empty record has no entry of a number. -/
@[simp] theorem entriesOf_nil (number : Nat) : entriesOf number ([] : List (Nat × α)) = [] := rfl

/-- The entries of a number stand in the order of the record. -/
@[simp] theorem entriesOf_append (number : Nat) (record more : List (Nat × α)) :
    entriesOf number (record ++ more) = entriesOf number record ++ entriesOf number more := by
  simp [entriesOf]

/-- A unit's own entries are on its own record. -/
theorem entriesOf_map_self (number : Nat) (entries : List α) :
    entriesOf number (entries.map fun entry => (number, entry)) = entries := by
  simp [entriesOf, List.filter_map, Function.comp_def]

/-- They are on no other record. -/
theorem entriesOf_map_of_ne {number other : Nat} (ne : number ≠ other) (entries : List α) :
    entriesOf number (entries.map fun entry => (other, entry)) = [] := by
  simp [entriesOf, List.filter_map, Function.comp_def, Ne.symm ne]

/-- An entry of a number is one that is recorded under it. -/
theorem mem_entriesOf_iff {number : Nat} {entry : α} {record : List (Nat × α)} :
    entry ∈ entriesOf number record ↔ (number, entry) ∈ record := by
  simp [entriesOf]

namespace Phase

/-- The end of a body that comes with a pick, under the number of the unit. -/
def bodyEndAt (phase : Phase σ) : Pick → List (Nat × Reply CheckResult)
  | .unit number =>
    (phase.tasks[number]?.bind fun task => task.bodyEnd? phase.world.board).toList.map
      fun reply => (number, reply)
  | .runner | .stray _ => []

/-- The signal that a pick sends, under the number of the unit. -/
def signalAt (phase : Phase σ) : Pick → List (Nat × Signal)
  | .unit number =>
    (phase.tasks[number]?.bind fun task => (task.advance phase.world.board).signal).toList.map
      fun signal => (number, signal)
  | .runner | .stray _ => []

/-- What is seen of a phase that follows a schedule until the runner returns. -/
def watch (view : Phase σ → Pick → List α) (times : PhaseTimes) (phase : Phase σ) :
    List Pick → List α
  | [] => []
  | pick :: picks =>
    match phase.result? with
    | some _ => []
    | none => view phase pick ++ watch view times (phase.step times pick).1 picks

/-- The ends of the bodies, in order. -/
def bodyEnds (times : PhaseTimes) (phase : Phase σ) (picks : List Pick) :
    List (Nat × Reply CheckResult) := phase.watch bodyEndAt times picks

/-- The signals that are sent, in order. -/
def signals (times : PhaseTimes) (phase : Phase σ) (picks : List Pick) : List (Nat × Signal) :=
  phase.watch signalAt times picks

variable {times : PhaseTimes} {phase : Phase σ}

/-- A phase whose runner has returned is left alone. -/
theorem run_of_returned {result : Except Fault Nat} (returned : phase.result? = some result)
    (picks : List Pick) : phase.run times picks = (phase, []) := by
  cases picks with
  | nil => rfl
  | cons pick picks => simp [run, returned]

/-- A phase that has not returned takes the next step of the schedule. -/
theorem run_cons (unreturned : phase.result? = none) (pick : Pick) (picks : List Pick) :
    phase.run times (pick :: picks) =
      (((phase.step times pick).1.run times picks).1,
        (phase.step times pick).2 ++ ((phase.step times pick).1.run times picks).2) := by
  simp [run, unreturned]

/-- Following a longer schedule is following its two parts one after the other. -/
theorem run_append (times : PhaseTimes) (phase : Phase σ) (picks more : List Pick) :
    (phase.run times (picks ++ more)).1 = ((phase.run times picks).1.run times more).1 := by
  induction picks generalizing phase with
  | nil => rfl
  | cons pick picks ih =>
    cases returned : phase.result? with
    | some result => simp only [run_of_returned returned]
    | none => simp only [List.cons_append, run_cons returned, ih]

end Phase

end BoardDiagnostics
