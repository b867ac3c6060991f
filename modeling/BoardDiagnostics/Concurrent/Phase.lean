import BoardDiagnostics.Concurrent.Barrier
import BoardDiagnostics.Concurrent.World

/-!
# The concurrent phase

A phase launches its units one by one, waits until the barrier has delivered a signal from each
of them, and returns.  A unit that broke off ends the phase at once; units that are still at
work then become strays.  What happens in which order is not up to the phase: a schedule picks,
step by step, whether the runner of the phase, one of its units or a stray goes on.

A schedule may be any list of picks.  When it is used up, everything that is left is finished in
a fixed order, so every phase returns.
-/

set_option autoImplicit false

namespace BoardDiagnostics

/-- Who goes on next. -/
inductive Pick where
  /-- The runner of the phase. -/
  | runner
  /-- The unit that was launched under this number. -/
  | unit (number : Nat)
  /-- The stray with this number. -/
  | stray (number : Nat)
  deriving DecidableEq, Repr

/-- What the runner of a phase is at. -/
inductive Runner (σ : Type) where
  /-- These units are still to be launched. -/
  | launching (rest : List (CheckUnit σ))
  /-- All units are launched, and the runner waits for their signals. -/
  | draining
  | returned (result : Except Fault Nat)

/-- How long the parts of a concurrent phase take. -/
structure PhaseTimes where
  unit : Nat → Duration
  phase : Duration

/-- A concurrent phase at work. -/
structure Phase (σ : Type) where
  world : World σ
  /-- The tasks of the launched units, in launch order. -/
  tasks : List (Task σ)
  runner : Runner σ
  barrier : Barrier

namespace Phase

variable {σ : Type}

/-- The line with which a phase begins. -/
def beginLine : Line := .info (Console.sectionHeader "begin tests")

/-- The line after the last launch. -/
def launchedLine (units : Nat) : Line :=
  .info ("launched " ++ toString units ++ " test tasks")

/-- The lines after the last signal. -/
def releasedLines (units : Nat) (elapsed : Duration) : List Line :=
  [.info Console.rule, .info ("completed " ++ toString units ++ " tasks (" ++ elapsed.text ++ ")")]

/-- A phase that has yet to launch its units. -/
def start (units : List (CheckUnit σ)) (world : World σ) : Phase σ :=
  ⟨world, [], .launching units, .ofExpected units.length⟩

/-- What the runner returned, if it did. -/
def result? (phase : Phase σ) : Option (Except Fault Nat) :=
  match phase.runner with
  | .returned result => some result
  | _ => none

/-- What a signal means for the runner: a unit that broke off ends the phase. -/
def afterSignal (signal : Signal) : Runner σ :=
  match signal.outcome with
  | .aborted reason => .returned (.error (.checkAborted signal.name reason))
  | _ => .draining

/-- The next step of the runner. -/
def stepRunner (times : PhaseTimes) (phase : Phase σ) : Phase σ × Transcript :=
  match phase.runner with
  | .launching [] =>
    ({ phase with runner := .draining }, [.line (launchedLine phase.barrier.expected)])
  | .launching (unit :: rest) =>
    match phase.barrier.issue with
    | (some signaller, barrier) =>
      let task := Task.launch unit signaller (times.unit phase.tasks.length)
      ({ phase with tasks := phase.tasks ++ [task], runner := .launching rest, barrier := barrier },
        [.event (.unitLaunched unit.name)])
    | (none, barrier) => ({ phase with runner := .launching [], barrier := barrier }, [])
  | .draining =>
    match phase.barrier.poll with
    | (.released, barrier) =>
      ({ phase with runner := .returned (.ok barrier.expected), barrier := barrier },
        (releasedLines barrier.received times.phase).map Entry.line ++
          [.event (.concurrentReleased barrier.expected times.phase)])
    | (.signal signal, barrier) =>
      ({ phase with runner := afterSignal signal, barrier := barrier },
        [.event (.unitCompleted signal.name signal.elapsed signal.outcome)])
    | (.lost fault, barrier) =>
      ({ phase with runner := .returned (.error fault), barrier := barrier }, [])
    | (.pending, barrier) => ({ phase with barrier := barrier }, [])
  | .returned _ => (phase, [])

/-- The next step of a unit. -/
def stepUnit (number : Nat) (phase : Phase σ) : Phase σ × Transcript :=
  match phase.tasks[number]? with
  | none => (phase, [])
  | some task =>
    let step := task.advance phase.world.board
    let barrier := match step.signal with
      | none => phase.barrier
      | some signal => phase.barrier.send task.signaller signal
    ({ phase with
        world := { phase.world with board := step.board }
        tasks := phase.tasks.set number step.task
        barrier := barrier },
      step.notes.map .note)

/-- The next step of a stray. -/
def stepStray (number : Nat) (phase : Phase σ) : Phase σ × Transcript :=
  let (world, transcript) := phase.world.advanceStray number
  ({ phase with world := world }, transcript)

/-- The step that a pick asks for. -/
def step (times : PhaseTimes) (phase : Phase σ) : Pick → Phase σ × Transcript
  | .runner => phase.stepRunner times
  | .unit number => phase.stepUnit number
  | .stray number => phase.stepStray number

/-- Follow a schedule until the runner returns. -/
def run (times : PhaseTimes) (phase : Phase σ) : List Pick → Phase σ × Transcript
  | [] => (phase, [])
  | pick :: picks =>
    match phase.result? with
    | some _ => (phase, [])
    | none =>
      let (phase, first) := phase.step times pick
      let (phase, more) := run times phase picks
      (phase, first ++ more)

/-- A schedule that finishes a phase of so many units wherever it stands: launch what is left,
take every unit through its four steps, and receive every signal. -/
def finishing (units : Nat) : List Pick :=
  List.replicate (units + 1) .runner ++
    (List.range units).flatMap (fun number => List.replicate 4 (.unit number)) ++
    List.replicate (units + 1) .runner

/-- The strays that a phase leaves behind. -/
def leftover (phase : Phase σ) : List (Task σ) :=
  phase.tasks.filter fun task => !task.isOver

end Phase

/-- Run a concurrent phase by a schedule.  The result is the number of units that were launched.
-/
def runConcurrent {σ : Type} (units : List (CheckUnit σ)) (schedule : List Pick)
    (times : PhaseTimes) : Diagnosis σ Nat := fun world =>
  let (phase, transcript) :=
    (Phase.start units world).run times (schedule ++ Phase.finishing units.length)
  let result := phase.result?.getD (.error (.signalLost units.length phase.barrier.received))
  ⟨result, { phase.world with strays := phase.world.strays ++ phase.leftover },
    .line Phase.beginLine :: transcript⟩

end BoardDiagnostics
