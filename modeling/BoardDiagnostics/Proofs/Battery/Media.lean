import BoardDiagnostics.Battery.Sequential
import BoardDiagnostics.Proofs.World

/-!
# Storage media in order

The media are tested one after another.  A medium that fails its test is reported and the next one
follows; the first test that breaks off ends the sequence (`MediaBreaks`).
-/

set_option autoImplicit false

namespace BoardDiagnostics

variable {σ : Type}

/-- What the tests of storage media publish, by their result: one event for each medium that was
tested, passed or not, up to the first test that broke off. -/
inductive MediaTrace (occasion : Occasion) :
    List MediaTarget → Except Fault Unit → List Event → Prop where
  | done : MediaTrace occasion [] (.ok ()) []
  | tested {target : MediaTarget} {rest : List MediaTarget} {result : Except Fault Unit}
      {events : List Event} (passed : Bool) (more : MediaTrace occasion rest result events) :
      MediaTrace occasion (target :: rest) result
        (.mediaTested target.identifier target.readChunk occasion passed :: events)
  | broken {target : MediaTarget} {rest : List MediaTarget} {panic : Panic} :
      MediaTrace occasion (target :: rest)
        (.error (brokenOff ("media " ++ target.identifier) panic)) []

/-- In this state of the board, the test of a medium breaks off after the board has answered for
the media before it, whatever its answers were. -/
inductive MediaBreaks (board : Board σ) :
    σ → List MediaTarget → List MediaTarget → MediaTarget → Panic → Prop where
  | first {state : σ} {target : MediaTarget} {rest : List MediaTarget} {panic : Panic}
      (broke : (board.testMedia target state).1 = .error panic) :
      MediaBreaks board state (target :: rest) [] target panic
  | later {state : σ} {head target : MediaTarget} {rest before : List MediaTarget} {panic : Panic}
      {answer : Except Fault Unit} (answered : (board.testMedia head state).1 = .ok answer)
      (breaks : MediaBreaks board (board.testMedia head state).2 rest before target panic) :
      MediaBreaks board state (head :: rest) (head :: before) target panic

section

variable (board : Board σ) (occasion : Occasion) (target : MediaTarget) (elapsed : Duration)
  {world : World σ}

/-- A test that breaks off leaves its call on the record, and nothing after it. -/
theorem runMedia_eq_of_panic {panic : Panic}
    (broke : (board.testMedia target world.board).1 = .error panic) :
    runMedia board occasion target elapsed world =
      ⟨.error (brokenOff ("media " ++ target.identifier) panic),
        { world with board := (board.testMedia target world.board).2 },
        [.line (.info (Console.sectionHeader ("media " ++ target.identifier))),
          .call (.testMedia target (.error panic))]⟩ := by
  have reply : (board.readMedia target world.board).result = .error panic := broke
  have notes : (board.readMedia target world.board).notes =
      [.call (.testMedia target (.error panic))] := by
    rw [← broke]
    rfl
  unfold runMedia
  rw [Diagnosis.say_bind_apply, Diagnosis.onBoard_bind_apply _ _ rfl, reply, notes]
  rfl

/-- The line about the answer to a test. -/
def answerLine (target : MediaTarget) (elapsed : Duration) : Except Fault Unit → Line
  | .ok _ => .info (target.identifier ++ " completed (" ++ elapsed.text ++ ")")
  | .error fault => .ofFault fault "media check"

/-- A test that the board answers is followed by a line and one event. -/
theorem runMedia_eq_of_answer {answer : Except Fault Unit}
    (answered : (board.testMedia target world.board).1 = .ok answer) :
    runMedia board occasion target elapsed world =
      ⟨.ok (), { world with board := (board.testMedia target world.board).2 },
        [.line (.info (Console.sectionHeader ("media " ++ target.identifier))),
          .call (.testMedia target (.ok answer)), .line (answerLine target elapsed answer),
          .event (.mediaTested target.identifier target.readChunk occasion answer.isOk)]⟩ := by
  have reply : (board.readMedia target world.board).result = .ok answer := answered
  have notes : (board.readMedia target world.board).notes =
      [.call (.testMedia target (.ok answer))] := by
    rw [← answered]
    rfl
  unfold runMedia
  rw [Diagnosis.say_bind_apply, Diagnosis.onBoard_bind_apply _ _ rfl, reply, notes]
  cases answer <;> rfl

/-- A test that breaks off is the fault of its step, and nothing is published of it. -/
theorem runMedia_of_panic {panic : Panic}
    (broke : (board.testMedia target world.board).1 = .error panic) :
    (runMedia board occasion target elapsed world).result =
        .error (brokenOff ("media " ++ target.identifier) panic) ∧
      Transcript.events (runMedia board occasion target elapsed world).notes = [] := by
  rw [runMedia_eq_of_panic board occasion target elapsed broke]
  exact ⟨rfl, rfl⟩

/-- A medium for which the board answers is reported, and the sequence goes on. -/
theorem runMedia_of_answer {answer : Except Fault Unit}
    (answered : (board.testMedia target world.board).1 = .ok answer) :
    (runMedia board occasion target elapsed world).result = .ok () ∧
      (runMedia board occasion target elapsed world).state =
        { world with board := (board.testMedia target world.board).2 } ∧
      Transcript.events (runMedia board occasion target elapsed world).notes =
        [.mediaTested target.identifier target.readChunk occasion answer.isOk] := by
  rw [runMedia_eq_of_answer board occasion target elapsed answered]
  exact ⟨rfl, rfl, rfl⟩

end

section

variable (board : Board σ) (occasion : Occasion) (conditions : Conditions) (number : Nat)
  (target : MediaTarget) (rest : List MediaTarget)

/-- A medium is tested after a pause and before the rest. -/
theorem runMediaFrom_cons (world : World σ) :
    runMediaFrom board occasion conditions number (target :: rest) world =
      (Diagnosis.pause (conditions.pauses (number + 1)) >>= fun _ =>
        runMedia board occasion target (conditions.mediaTime number) >>= fun _ =>
          runMediaFrom board occasion conditions (number + 1) rest) world := rfl

/-- A test that breaks off is the last one. -/
theorem runMediaFrom_cons_of_panic {world paused : World σ} {panic : Panic}
    (pauses : (world.advanceStrays (conditions.pauses (number + 1))).1 = paused)
    (broke : (board.testMedia target paused.board).1 = .error panic) :
    (runMediaFrom board occasion conditions number (target :: rest) world).result =
        .error (brokenOff ("media " ++ target.identifier) panic) ∧
      Transcript.events
        (runMediaFrom board occasion conditions number (target :: rest) world).notes = [] := by
  obtain ⟨fails, silent⟩ :=
    runMedia_of_panic board occasion target (conditions.mediaTime number) broke
  rw [runMediaFrom_cons, Diagnosis.pause_bind_apply, pauses, Activity.bind_of_error fails]
  exact ⟨rfl, by simp [silent]⟩

/-- A test that the board answers is told by one event, and the rest is tested in the world that it
leaves. -/
theorem runMediaFrom_cons_of_answer {world paused tested : World σ} {answer : Except Fault Unit}
    (pauses : (world.advanceStrays (conditions.pauses (number + 1))).1 = paused)
    (answered : (board.testMedia target paused.board).1 = .ok answer)
    (after : tested = { paused with board := (board.testMedia target paused.board).2 }) :
    (runMediaFrom board occasion conditions number (target :: rest) world).result =
        (runMediaFrom board occasion conditions (number + 1) rest tested).result ∧
      Transcript.events
          (runMediaFrom board occasion conditions number (target :: rest) world).notes =
        .mediaTested target.identifier target.readChunk occasion answer.isOk ::
          Transcript.events
            (runMediaFrom board occasion conditions (number + 1) rest tested).notes := by
  obtain ⟨ends, state, reported⟩ :=
    runMedia_of_answer board occasion target (conditions.mediaTime number) answered
  rw [runMediaFrom_cons, Diagnosis.pause_bind_apply, pauses, Activity.bind_of_ok ends, state,
    ← after]
  exact ⟨rfl, by simp [reported]⟩

end

section

variable (board : Board σ) (occasion : Occasion) (conditions : Conditions)

/-- Media tested in order publish a word of their law, whatever the board answers. -/
theorem runMediaFrom_trace (number : Nat) (targets : List MediaTarget) (world : World σ) :
    MediaTrace occasion targets
      (runMediaFrom board occasion conditions number targets world).result
      (Transcript.events (runMediaFrom board occasion conditions number targets world).notes) := by
  induction targets generalizing number world with
  | nil => exact .done
  | cons target rest ih =>
    rcases reply : (board.testMedia target
      (world.advanceStrays (conditions.pauses (number + 1))).1.board).1 with panic | answer
    · obtain ⟨fails, silent⟩ :=
        runMediaFrom_cons_of_panic board occasion conditions number target rest rfl reply
      rw [fails, silent]
      exact .broken
    · obtain ⟨result, published⟩ :=
        runMediaFrom_cons_of_answer board occasion conditions number target rest rfl reply rfl
      rw [result, published]
      exact .tested _ (ih _ _)

/-- If a medium breaks the sequence off, the media before it are tested, and its panic is the
fault. -/
theorem runMediaFrom_of_breaks {number : Nat} {targets before : List MediaTarget}
    {target : MediaTarget} {panic : Panic} {world : World σ} (calm : world.strays = [])
    (breaks : MediaBreaks board world.board targets before target panic) :
    (runMediaFrom board occasion conditions number targets world).result =
        .error (brokenOff ("media " ++ target.identifier) panic) ∧
      MediaTrace occasion before (.ok ())
        (Transcript.events
          (runMediaFrom board occasion conditions number targets world).notes) := by
  generalize start : world.board = state at breaks
  induction breaks generalizing number world with
  | @first state target rest panic broke =>
    have pauses : (world.advanceStrays (conditions.pauses (number + 1))).1 = world := by
      rw [World.advanceStrays_of_calm calm]
    rw [← start] at broke
    obtain ⟨fails, silent⟩ :=
      runMediaFrom_cons_of_panic board occasion conditions number target rest pauses broke
    rw [silent]
    exact ⟨fails, .done⟩
  | @later state head target rest before panic answer answered breaks ih =>
    have pauses : (world.advanceStrays (conditions.pauses (number + 1))).1 = world := by
      rw [World.advanceStrays_of_calm calm]
    rw [← start] at answered
    obtain ⟨result, published⟩ :=
      runMediaFrom_cons_of_answer board occasion conditions number head rest pauses answered rfl
    rw [result, published]
    have next : (board.testMedia head world.board).2 = (board.testMedia head state).2 := by
      rw [start]
    obtain ⟨fails, tested⟩ := @ih (number + 1)
      ⟨(board.testMedia head world.board).2, world.strays⟩ calm next
    exact ⟨fails, .tested _ tested⟩

/-- The sequence fails only if a medium breaks it off. -/
theorem exists_breaks_of_runMediaFrom {number : Nat} {targets : List MediaTarget}
    {world : World σ} {fault : Fault} (calm : world.strays = [])
    (fails : (runMediaFrom board occasion conditions number targets world).result =
      .error fault) :
    ∃ before target panic, MediaBreaks board world.board targets before target panic ∧
      fault = brokenOff ("media " ++ target.identifier) panic := by
  induction targets generalizing number world with
  | nil => cases fails
  | cons target rest ih =>
    have pauses : (world.advanceStrays (conditions.pauses (number + 1))).1 = world := by
      rw [World.advanceStrays_of_calm calm]
    rcases reply : (board.testMedia target world.board).1 with panic | answer
    · obtain ⟨result, -⟩ :=
        runMediaFrom_cons_of_panic board occasion conditions number target rest pauses reply
      rw [result] at fails
      exact ⟨[], target, panic, .first reply, (Except.error.inj fails).symm⟩
    · obtain ⟨result, -⟩ :=
        runMediaFrom_cons_of_answer board occasion conditions number target rest pauses reply rfl
      rw [result] at fails
      obtain ⟨before, last, panic, breaks, told⟩ := ih (by exact calm) fails
      exact ⟨target :: before, last, panic, .later reply breaks, told⟩

end

end BoardDiagnostics
