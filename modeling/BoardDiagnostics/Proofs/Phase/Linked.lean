import BoardDiagnostics.Proofs.Phase.Steps

/-!
# A phase among the barriers of all batteries

A task that outlives its phase still holds the signaller that it was launched with, and when it is
done it sends its signal to the barrier that issued the signaller.  A linked phase writes this out.
The barriers of all batteries so far stand side by side, every task knows the battery that launched
it, and every task of whatever battery sends in the same way.  The names of the units and the
numbers of the signallers are the same in every battery, so the home of a task is all that keeps a
late signal from being counted among those of the phase that is under way.

Seen from its own barrier, a linked phase is a phase that drops the signals of strays
(`LinkedPhase.run_begin`), whatever the barriers of earlier batteries hold.
-/

set_option autoImplicit false

namespace BoardDiagnostics

variable {σ : Type}

/-- A launched unit and the number of the battery that launched it. -/
structure HomedTask (σ : Type) where
  home : Nat
  task : Task σ

/-- A signal that was sent, and the battery to whose barrier it went. -/
structure Sending where
  home : Nat
  signal : Signal
  deriving DecidableEq, Repr

namespace HomedTask

/-- A task after its next step. -/
def advance (homed : HomedTask σ) (board : σ) : HomedTask σ :=
  { homed with task := (homed.task.advance board).task }

/-- What the next step of a task sends. -/
def sending? (homed : HomedTask σ) (board : σ) : Option Sending :=
  (homed.task.advance board).signal.map fun signal => ⟨homed.home, signal⟩

/-- The barriers of all batteries after the next step of a task.  A signal goes to the barrier that
issued the signaller, if that barrier is still there. -/
def deliver (homed : HomedTask σ) (board : σ) (barriers : List Barrier) : List Barrier :=
  match (homed.task.advance board).signal with
  | none => barriers
  | some signal => barriers.modify homed.home (·.send homed.task.signaller signal)

/-- Delivering a signal adds and removes no barrier. -/
@[simp] theorem length_deliver (homed : HomedTask σ) (board : σ) (barriers : List Barrier) :
    (homed.deliver board barriers).length = barriers.length := by
  unfold deliver
  split
  · rfl
  · exact List.length_modify _ _ _

/-- A step without a signal leaves all barriers as they are. -/
theorem deliver_of_silent {homed : HomedTask σ} {board : σ}
    (silent : (homed.task.advance board).signal = none) (barriers : List Barrier) :
    homed.deliver board barriers = barriers := by
  unfold deliver
  rw [silent]

/-- No barrier but that of its own battery notices a task. -/
theorem getElem?_deliver_of_ne {homed : HomedTask σ} {number : Nat} (away : homed.home ≠ number)
    (board : σ) (barriers : List Barrier) :
    (homed.deliver board barriers)[number]? = barriers[number]? := by
  unfold deliver
  split
  · rfl
  · exact List.getElem?_modify_ne _ barriers away

end HomedTask

/-- A concurrent phase of a battery, among the tasks and the barriers of earlier batteries. -/
structure LinkedPhase (σ : Type) where
  /-- The number of the battery. -/
  number : Nat
  board : σ
  /-- The tasks that were still at work when the phases that launched them returned. -/
  late : List (HomedTask σ)
  /-- The tasks of the units launched by this phase, in launch order. -/
  own : List (HomedTask σ)
  runner : Runner σ
  /-- The barriers of the batteries so far, by number. -/
  barriers : List Barrier

namespace LinkedPhase

/-- A phase that has yet to launch its units.  The homes are those of the strays, one by one. -/
def begin (number : Nat) (units : List (CheckUnit σ)) (world : World σ) (homes : List Nat)
    (earlier : List Barrier) : LinkedPhase σ :=
  ⟨number, world.board, (homes.zip world.strays).map fun stray => ⟨stray.1, stray.2⟩, [],
    .launching units, earlier ++ [.ofExpected units.length]⟩

/-- The barrier of the phase. -/
def barrier (linked : LinkedPhase σ) : Barrier :=
  linked.barriers[linked.number]?.getD (.ofExpected 0)

/-- The phase by itself: its own barrier, and tasks without their homes. -/
def view (linked : LinkedPhase σ) : Phase σ :=
  ⟨⟨linked.board, linked.late.map HomedTask.task⟩, linked.own.map HomedTask.task, linked.runner,
    linked.barrier⟩

/-- The next step of the runner, who knows no barrier but that of the phase and launches units with
signallers of it. -/
def stepRunner (times : PhaseTimes) (linked : LinkedPhase σ) : LinkedPhase σ × Transcript :=
  let (phase, transcript) := linked.view.stepRunner times
  ({ linked with
      own := linked.own ++
        (phase.tasks.drop linked.own.length).map (HomedTask.mk linked.number)
      runner := phase.runner
      barriers := linked.barriers.set linked.number phase.barrier },
    transcript)

/-- What the next step of a task, of whatever battery, does to the board and the barriers. -/
def stepTask (homed : HomedTask σ) (linked : LinkedPhase σ) : LinkedPhase σ × Transcript :=
  let step := homed.task.advance linked.board
  ({ linked with
      board := step.board
      barriers := homed.deliver linked.board linked.barriers },
    step.notes.map .note)

/-- The next step of a task of the phase. -/
def stepOwn (n : Nat) (linked : LinkedPhase σ) : LinkedPhase σ × Transcript :=
  match linked.own[n]? with
  | none => (linked, [])
  | some homed =>
    let stepped := linked.stepTask homed
    ({ stepped.1 with own := linked.own.set n (homed.advance linked.board) }, stepped.2)

/-- The next step of a late task. -/
def stepLate (n : Nat) (linked : LinkedPhase σ) : LinkedPhase σ × Transcript :=
  match linked.late[n]? with
  | none => (linked, [])
  | some homed =>
    let stepped := linked.stepTask homed
    ({ stepped.1 with late := linked.late.set n (homed.advance linked.board) }, stepped.2)

/-- The step that a pick asks for. -/
def step (times : PhaseTimes) (linked : LinkedPhase σ) : Pick → LinkedPhase σ × Transcript
  | .runner => linked.stepRunner times
  | .unit n => linked.stepOwn n
  | .stray n => linked.stepLate n

/-- Follow a schedule until the runner returns. -/
def run (times : PhaseTimes) (linked : LinkedPhase σ) : List Pick → LinkedPhase σ × Transcript
  | [] => (linked, [])
  | pick :: picks =>
    match linked.view.result? with
    | some _ => (linked, [])
    | none =>
      let (linked, first) := linked.step times pick
      let (linked, more) := run times linked picks
      (linked, first ++ more)

/-- What a pick sends, be it of the phase or late. -/
def sendAt (linked : LinkedPhase σ) : Pick → List Sending
  | .runner => []
  | .unit n => (linked.own[n]?.bind fun homed => homed.sending? linked.board).toList
  | .stray n => (linked.late[n]?.bind fun homed => homed.sending? linked.board).toList

/-- All that is sent, in order, until the runner returns. -/
def sends (times : PhaseTimes) (linked : LinkedPhase σ) : List Pick → List Sending
  | [] => []
  | pick :: picks =>
    match linked.view.result? with
    | some _ => []
    | none => linked.sendAt pick ++ sends times (linked.step times pick).1 picks

/-- The signals among them that went to the barrier of the phase. -/
def ownSignals (times : PhaseTimes) (linked : LinkedPhase σ) (picks : List Pick) : List Signal :=
  ((linked.sends times picks).filter fun sending => sending.home = linked.number).map
    Sending.signal

/-- The phase has a barrier, which issued the signallers of its own tasks, while those of late tasks
come from earlier ones. -/
structure Apart (linked : LinkedPhase σ) : Prop where
  begun : linked.number < linked.barriers.length
  own : ∀ homed ∈ linked.own, homed.home = linked.number
  late : ∀ homed ∈ linked.late, homed.home < linked.number

variable {linked : LinkedPhase σ} {times : PhaseTimes} {n : Nat} {homed : HomedTask σ}

/-- A phase that has returned takes no further step. -/
theorem run_of_returned {result : Except Fault Nat}
    (returned : linked.view.result? = some result) (picks : List Pick) :
    linked.run times picks = (linked, []) := by
  cases picks with
  | nil => rfl
  | cons pick picks => simp only [run, returned]

/-- A phase that has not returned takes the next step of the schedule. -/
theorem run_cons (unreturned : linked.view.result? = none) (pick : Pick) (picks : List Pick) :
    linked.run times (pick :: picks) =
      (((linked.step times pick).1.run times picks).1,
        (linked.step times pick).2 ++ ((linked.step times pick).1.run times picks).2) := by
  simp only [run, unreturned]

/-! ### The barrier of the phase -/

namespace Apart

/-- The barrier of the phase stands behind the earlier ones, under its own number. -/
theorem getElem?_barriers (apart : linked.Apart) :
    linked.barriers[linked.number]? = some linked.barrier := by
  rw [barrier, List.getElem?_eq_getElem apart.begun, Option.getD_some]

/-- A signal of the phase's own goes to the barrier of the phase. -/
theorem getElem?_deliver_own (apart : linked.Apart) (launched : homed ∈ linked.own)
    {signal : Signal} (sends : (homed.task.advance linked.board).signal = some signal) :
    (homed.deliver linked.board linked.barriers)[linked.number]? =
      some (linked.barrier.send homed.task.signaller signal) := by
  unfold HomedTask.deliver
  rw [sends, apart.own homed launched, List.getElem?_modify_eq, apart.getElem?_barriers]
  rfl

/-- A late signal does not. -/
theorem getElem?_deliver_late (apart : linked.Apart) (strays : homed ∈ linked.late) :
    (homed.deliver linked.board linked.barriers)[linked.number]? = some linked.barrier := by
  rw [HomedTask.getElem?_deliver_of_ne (Nat.ne_of_lt (apart.late homed strays)),
    apart.getElem?_barriers]

end Apart

/-! ### One step -/

/-- A phase keeps its number. -/
theorem number_step (times : PhaseTimes) (linked : LinkedPhase σ) (pick : Pick) :
    (linked.step times pick).1.number = linked.number := by
  cases pick with
  | runner => rfl
  | unit n =>
    show (linked.stepOwn n).1.number = _
    unfold stepOwn
    split <;> rfl
  | stray n =>
    show (linked.stepLate n).1.number = _
    unfold stepLate
    split <;> rfl

namespace Apart

/-- A step keeps the phase apart from the earlier ones, whoever takes it. -/
theorem step (apart : linked.Apart) (times : PhaseTimes) (pick : Pick) :
    (linked.step times pick).1.Apart := by
  cases pick with
  | runner =>
    refine ⟨?_, fun homed member => ?_, apart.late⟩
    · exact Nat.lt_of_lt_of_eq apart.begun (List.length_set).symm
    · rcases List.mem_append.mp member with old | new
      · exact apart.own homed old
      · obtain ⟨task, -, rfl⟩ := List.mem_map.mp new
        rfl
  | unit n =>
    show (linked.stepOwn n).1.Apart
    unfold stepOwn
    split
    · exact apart
    · next homed here =>
      have launched := List.mem_of_getElem? here
      refine ⟨?_, fun other member => ?_, apart.late⟩
      · exact Nat.lt_of_lt_of_eq apart.begun (homed.length_deliver _ _).symm
      · rcases List.mem_or_eq_of_mem_set member with old | rfl
        · exact apart.own other old
        · exact apart.own homed launched
  | stray n =>
    show (linked.stepLate n).1.Apart
    unfold stepLate
    split
    · exact apart
    · next homed here =>
      have strays := List.mem_of_getElem? here
      refine ⟨?_, apart.own, fun other member => ?_⟩
      · exact Nat.lt_of_lt_of_eq apart.begun (homed.length_deliver _ _).symm
      · rcases List.mem_or_eq_of_mem_set member with old | rfl
        · exact apart.late other old
        · exact apart.late homed strays

end Apart

/-- The runner steps as it does in a phase on its own. -/
theorem view_stepRunner (apart : linked.Apart) :
    (linked.stepRunner times).1.view = (linked.view.stepRunner times).1 := by
  obtain ⟨world, new, tasks⟩ := Phase.stepRunner_frame times linked.view
  have count : linked.view.tasks.length = linked.own.length := List.length_map _
  have launched : (linked.view.stepRunner times).1.tasks.drop linked.own.length = new := by
    rw [tasks, List.drop_append_of_le_length (Nat.le_of_eq count.symm), ← count, List.drop_length,
      List.nil_append]
  have own : (linked.stepRunner times).1.view.tasks = (linked.view.stepRunner times).1.tasks := by
    show (linked.own ++ ((linked.view.stepRunner times).1.tasks.drop linked.own.length).map
      (HomedTask.mk linked.number)).map HomedTask.task = _
    rw [launched, tasks, List.map_append, List.map_map]
    show linked.view.tasks ++ new.map id = _
    rw [List.map_id]
  have barrier : (linked.stepRunner times).1.barrier =
      (linked.view.stepRunner times).1.barrier := by
    show ((linked.barriers.set linked.number
      (linked.view.stepRunner times).1.barrier)[linked.number]?).getD _ = _
    rw [List.getElem?_set_self apart.begun, Option.getD_some]
  show Phase.mk _ _ _ _ = Phase.mk _ _ _ _
  rw [Phase.mk.injEq]
  exact ⟨world.symm, own, rfl, barrier⟩

/-- A unit of the phase steps as it does in a phase on its own. -/
theorem view_stepOwn (apart : linked.Apart) (n : Nat) :
    (linked.stepOwn n).1.view = (linked.view.stepUnit n).1 ∧
      (linked.stepOwn n).2 = (linked.view.stepUnit n).2 := by
  cases here : linked.own[n]? with
  | none =>
    have unlaunched : linked.view.tasks[n]? = none := by simp [view, here]
    simp only [stepOwn, here, Phase.stepUnit, unlaunched, and_self]
  | some homed =>
    have launched : linked.view.tasks[n]? = some homed.task := by simp [view, here]
    cases sends : (homed.task.advance linked.board).signal with
    | none =>
      have silent : (homed.task.advance linked.view.world.board).signal = none := sends
      have barriers := HomedTask.deliver_of_silent sends linked.barriers
      simp only [stepOwn, stepTask, here, Phase.stepUnit, launched, silent]
      refine ⟨?_, rfl⟩
      simp only [view, barrier, barriers, List.map_set, HomedTask.advance]
    | some signal =>
      have spoken : (homed.task.advance linked.view.world.board).signal = some signal := sends
      have sent := apart.getElem?_deliver_own (List.mem_of_getElem? here) sends
      simp only [stepOwn, stepTask, here, Phase.stepUnit, launched, spoken]
      refine ⟨?_, rfl⟩
      simp only [view, barrier, sent, List.map_set, HomedTask.advance, Option.getD_some]

/-- A late unit of an earlier phase steps as a stray does. -/
theorem view_stepLate (apart : linked.Apart) (n : Nat) :
    (linked.stepLate n).1.view = (linked.view.stepStray n).1 ∧
      (linked.stepLate n).2 = (linked.view.stepStray n).2 := by
  cases here : linked.late[n]? with
  | none =>
    have gone : linked.view.world.strays[n]? = none := by simp [view, here]
    simp only [stepLate, here, Phase.stepStray, World.advanceStray, gone, and_self]
  | some homed =>
    have strays : linked.view.world.strays[n]? = some homed.task := by simp [view, here]
    have away := apart.getElem?_deliver_late (List.mem_of_getElem? here)
    simp only [stepLate, stepTask, here, Phase.stepStray, World.advanceStray, strays]
    refine ⟨?_, rfl⟩
    simp only [view, barrier, away, List.map_set, HomedTask.advance, Option.getD_some]

/-- A step of a linked phase is a step of the phase by itself. -/
theorem view_step (apart : linked.Apart) (times : PhaseTimes) (pick : Pick) :
    (linked.step times pick).1.view = (linked.view.step times pick).1 ∧
      (linked.step times pick).2 = (linked.view.step times pick).2 := by
  cases pick with
  | runner => exact ⟨view_stepRunner apart, rfl⟩
  | unit n => exact view_stepOwn apart n
  | stray n => exact view_stepLate apart n

/-- Of what a step sends, the part that goes to the barrier of the phase is what the phase by itself
sends. -/
theorem own_sendAt (apart : linked.Apart) (pick : Pick) :
    ((linked.sendAt pick).filter fun sending => sending.home = linked.number).map Sending.signal =
      (linked.view.signalAt pick).map Prod.snd := by
  cases pick with
  | runner => rfl
  | unit n =>
    cases here : linked.own[n]? with
    | none => simp [sendAt, Phase.signalAt, view, here]
    | some homed =>
      have home := apart.own homed (List.mem_of_getElem? here)
      cases sends : (homed.task.advance linked.board).signal <;>
        simp [sendAt, Phase.signalAt, view, here, HomedTask.sending?, sends, home]
  | stray n =>
    cases here : linked.late[n]? with
    | none => simp [sendAt, Phase.signalAt, here]
    | some homed =>
      have home := Nat.ne_of_lt (apart.late homed (List.mem_of_getElem? here))
      cases sends : (homed.task.advance linked.board).signal <;>
        simp [sendAt, Phase.signalAt, here, HomedTask.sending?, sends, home]

/-! ### A whole run -/

/-- A run of a linked phase is a run of the phase by itself. -/
theorem view_run (apart : linked.Apart) (times : PhaseTimes) (picks : List Pick) :
    (linked.run times picks).1.view = (linked.view.run times picks).1 ∧
      (linked.run times picks).2 = (linked.view.run times picks).2 := by
  induction picks generalizing linked with
  | nil => exact ⟨rfl, rfl⟩
  | cons pick picks ih =>
    cases returned : linked.view.result? with
    | some result =>
      rw [run_of_returned returned, Phase.run_of_returned returned]
      exact ⟨rfl, rfl⟩
    | none =>
      obtain ⟨view, transcript⟩ := view_step apart times pick
      obtain ⟨final, rest⟩ := ih (apart.step times pick)
      rw [run_cons returned, Phase.run_cons returned, transcript, ← view]
      exact ⟨final, congrArg _ rest⟩

/-- The signals that go to the barrier of the phase are those of its own units. -/
theorem ownSignals_eq (apart : linked.Apart) (times : PhaseTimes) (picks : List Pick) :
    linked.ownSignals times picks = (linked.view.signals times picks).map Prod.snd := by
  unfold ownSignals
  induction picks generalizing linked with
  | nil => rfl
  | cons pick picks ih =>
    cases returned : linked.view.result? with
    | some result => simp [sends, Phase.signals, Phase.watch, returned]
    | none =>
      have first := own_sendAt apart pick
      have rest := ih (apart.step times pick)
      rw [number_step, (view_step apart times pick).1] at rest
      simp only [sends, Phase.signals, Phase.watch, returned, List.filter_append, List.map_append]
      rw [first, rest]
      rfl

variable {number : Nat} {world : World σ} {homes : List Nat} {earlier : List Barrier}

/-- A phase starts apart from the earlier ones. -/
theorem apart_begin (world : World σ) (units : List (CheckUnit σ))
    (all_earlier : ∀ home ∈ homes, home < number) (kept : earlier.length = number) :
    (begin number units world homes earlier).Apart where
  begun := by
    show number < (earlier ++ [_]).length
    rw [List.length_append, kept]
    exact Nat.lt_succ_self number
  own := nofun
  late homed member := by
    obtain ⟨⟨home, task⟩, stray, rfl⟩ := List.mem_map.mp member
    exact all_earlier home (List.of_mem_zip stray).1

/-- A phase starts as one on its own does. -/
theorem view_begin (units : List (CheckUnit σ)) (homed : homes.length = world.strays.length)
    (kept : earlier.length = number) :
    (begin number units world homes earlier).view = Phase.start units world := by
  have strays : (begin number units world homes earlier).late.map HomedTask.task =
      world.strays := by
    show ((homes.zip world.strays).map _).map HomedTask.task = _
    rw [List.map_map]
    exact List.map_snd_zip (Nat.le_of_eq homed.symm)
  have barrier : (begin number units world homes earlier).barrier = .ofExpected units.length := by
    show ((earlier ++ [_])[number]?).getD _ = _
    rw [← kept, List.getElem?_concat_length, Option.getD_some]
  show Phase.mk ⟨world.board, (begin number units world homes earlier).late.map HomedTask.task⟩ []
    (.launching units) (begin number units world homes earlier).barrier = _
  rw [strays, barrier]
  rfl

/-- A phase by itself shows all that a linked phase does, and the barrier of the linked phase has
received or holds the signals of its own units, each once, and no others. -/
structure ShownBy (linked : LinkedPhase σ) (phase : Phase σ) (times : PhaseTimes)
    (picks : List Pick) : Prop where
  view : (linked.run times picks).1.view = (phase.run times picks).1
  transcript : (linked.run times picks).2 = (phase.run times picks).2
  own : linked.ownSignals times picks = (phase.signals times picks).map Prod.snd
  counted : ∃ received, received.length = (linked.run times picks).1.barrier.received ∧
    linked.ownSignals times picks =
      received ++ (linked.run times picks).1.barrier.queue.toList

/-- Whatever the barriers of earlier batteries hold, and whenever late tasks go on, a linked phase
is shown by the phase that drops the signals of strays. -/
theorem run_begin (units : List (CheckUnit σ)) (homed : homes.length = world.strays.length)
    (all_earlier : ∀ home ∈ homes, home < number) (kept : earlier.length = number)
    (times : PhaseTimes) (picks : List Pick) :
    (begin number units world homes earlier).ShownBy (Phase.start units world) times picks := by
  have apart := apart_begin world units all_earlier kept
  obtain ⟨view, transcript⟩ := view_run apart times picks
  have own := ownSignals_eq apart times picks
  rw [view_begin units homed kept] at view transcript own
  obtain ⟨received, count, order, -⟩ :=
    ((Phase.account_start units times world).run picks).standing
  refine ⟨view, transcript, own, received, ?_, ?_⟩
  · show _ = (((begin number units world homes earlier).run times picks).1.view).barrier.received
    rw [view, count]
  · show _ = _ ++
      (((begin number units world homes earlier).run times picks).1.view).barrier.queue.toList
    rw [view, own, ← order, List.nil_append]

end LinkedPhase

end BoardDiagnostics
