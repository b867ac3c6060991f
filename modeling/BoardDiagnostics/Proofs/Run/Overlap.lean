import BoardDiagnostics.Proofs.Battery.Strays
import BoardDiagnostics.Proofs.Phase.Linked
import BoardDiagnostics.Proofs.Run.Courses

/-!
# Batteries that overlap

A battery that is aborted leaves units at work, and they may finish while later batteries of the
same session run.  Each battery of a session is told here together with the homes of the strays
around it, that is, the batteries that launched them (`Session.reruns`).  Late units send their
signals to the barriers of their own batteries, and what a battery publishes and how it ends
follows from the signals of its own units alone (`Rerun.KeepsApart`).
-/

set_option autoImplicit false

namespace BoardDiagnostics

variable {σ : Type}

/-! ### Events of units -/

/-- The event tells of concurrent units. -/
def Event.isOfUnits : Event → Bool
  | .unitLaunched _ | .unitCompleted _ _ _ | .concurrentReleased _ _ => true
  | _ => false

/-- The events tell nothing of concurrent units. -/
def UnitFree (events : List Event) : Prop := ∀ event ∈ events, event.isOfUnits = false

/-- Two rows of events tell nothing of units if neither does. -/
theorem UnitFree.append {events more : List Event} (first : UnitFree events)
    (rest : UnitFree more) : UnitFree (events ++ more) := by
  intro event member
  rcases List.mem_append.mp member with early | late
  · exact first event early
  · exact rest event late

/-- The allocation step tells nothing of units. -/
theorem unitFree_of_allocationTrace {spec : AllocationSpec} {conditions : Conditions}
    {result : Except Fault Unit} {events : List Event}
    (trace : AllocationTrace spec conditions result events) : UnitFree events := by
  cases trace with
  | finished few =>
    refine .append (fun event member => ?_) (by simp [UnitFree, Event.isOfUnits])
    rcases List.mem_cons.mp member with rfl | cycle
    · rfl
    · obtain ⟨run, -, rfl⟩ := List.mem_map.mp cycle
      rfl
  | broken => simp [UnitFree, Event.isOfUnits]

/-- The media tests tell nothing of units. -/
theorem unitFree_of_mediaTrace {occasion : Occasion} {plan : List MediaTarget}
    {result : Except Fault Unit} {events : List Event}
    (trace : MediaTrace occasion plan result events) : UnitFree events := by
  induction trace with
  | done => nofun
  | tested passed more ih =>
    intro event member
    rcases List.mem_cons.mp member with rfl | later
    · rfl
    · exact ih event later
  | broken => nofun

/-- A sequential phase tells nothing of units, late ones included. -/
theorem unitFree_of_sequentialTrace {caps : Capabilities} {config : Config} {occasion : Occasion}
    {conditions : Conditions} {result : Except Fault Unit} {events : List Event}
    (trace : SequentialTrace caps config occasion conditions result events) : UnitFree events := by
  cases trace with
  | allocation broken => exact unitFree_of_allocationTrace broken
  | media finished tested =>
    exact (unitFree_of_allocationTrace finished).append (unitFree_of_mediaTrace tested)

/-! ### What a battery publishes of its units -/

/-- What a concurrent phase publishes, by its result, given the signals that its own units sent and
the ways in which their bodies ended, in order and by number: either all units have signalled and
none broke off, or it ends with the first signal of a unit that did. -/
inductive OwnTrace (units : List (CheckUnit σ)) (elapsed : Duration) (sent : List (Nat × Signal))
    (ended : List (Nat × Reply CheckResult)) : Except Fault Nat → List Event → Prop where
  | released (all : (sent.map Prod.fst).Perm (List.range units.length))
      (sane : ∀ n panic, (n, .error panic) ∉ ended) :
      OwnTrace units elapsed sent ended (.ok units.length)
        (launches (units.map CheckUnit.name) ++ completions (sent.map Prod.snd) ++
          [.concurrentReleased units.length elapsed])
  | aborted {earlier later : List (Nat × Signal)} {last : Nat × Signal} {panic : Panic}
      (order : sent = earlier ++ last :: later)
      (sane : ∀ s ∈ earlier, s.2.outcome.isAborted = false)
      (broke : (last.1, .error panic) ∈ ended) :
      OwnTrace units elapsed sent ended (.error (.checkAborted last.2.name panic.message))
        (launches (units.map CheckUnit.name) ++ completions ((earlier ++ [last]).map Prod.snd))

/-- What a concurrent phase publishes is decided by the signals and body ends of its own units. -/
theorem runConcurrent_ownTrace (units : List (CheckUnit σ)) (schedule : List Pick)
    (times : PhaseTimes) (world : World σ) :
    OwnTrace units times.phase (Phase.allSignals units schedule times world)
      (Phase.allBodyEnds units schedule times world)
      (runConcurrent units schedule times world).result
      (Transcript.events (runConcurrent units schedule times world).notes) := by
  have account := Phase.account_final units times schedule world
  have returned := Phase.result?_final units times schedule world
  rcases result : (runConcurrent units schedule times world).result with fault | count
  · rw [result] at returned
    obtain ⟨earlier, last, later, panic, order, sane, ends, -, rfl, published⟩ :=
      account.of_failed returned
    rw [published]
    exact .aborted order sane ends
  · rw [result] at returned
    obtain ⟨rfl, all, sane, -, published⟩ := account.of_released returned
    rw [published]
    exact .released all sane

/-- What a battery publishes, by its result: after a concurrent phase that is released comes a
sequential one, which tells nothing of units. -/
inductive OwnBatteryTrace (caps : Capabilities) (config : Config) (conditions : Conditions)
    (units : List (CheckUnit σ)) (sent : List (Nat × Signal))
    (ended : List (Nat × Reply CheckResult)) : Except Fault Unit → List Event → Prop where
  | concurrent {fault : Fault} {events : List Event}
      (aborted : OwnTrace units conditions.phaseTimes.phase sent ended (.error fault) events) :
      OwnBatteryTrace caps config conditions units sent ended (.error fault) events
  | sequential {count : Nat} {result : Except Fault Unit} {first rest : List Event}
      (released : OwnTrace units conditions.phaseTimes.phase sent ended (.ok count) first)
      (went : SequentialTrace caps config .rerun conditions result rest) (free : UnitFree rest) :
      OwnBatteryTrace caps config conditions units sent ended result (first ++ rest)

/-! ### The batteries of a session -/

/-- A battery of a session: its number, the batteries that launched the strays around it, stray by
stray, the world that it began in, and its course. -/
structure Rerun (σ : Type) where
  number : Nat
  homes : List Nat
  before : World σ
  course : Course Entry (World σ) Fault Unit

/-- The events that a battery publishes. -/
def Rerun.events (rerun : Rerun σ) : List Event := Transcript.events rerun.course.notes

/-- The batteries that a session asks for.  The units that a battery leaves at work join the strays
behind those that are there, and the battery is their home. -/
def Session.reruns (diagnose : Nat → Diagnosis σ Unit) :
    Session σ → Nat → List Nat → List (Task σ) → List (Rerun σ)
  | .ended _ _, _, _, _ => []
  | .rerun board resume, number, homes, strays =>
    let course := diagnose number ⟨board, strays⟩
    let left := course.state.strays.length - strays.length
    ⟨number, homes, ⟨board, strays⟩, course⟩ ::
      reruns diagnose (resume course.result course.state.board) (number + 1)
        (homes ++ List.replicate left number) course.state.strays

/-- A session publishes what its batteries do, in their order. -/
theorem events_follow (diagnose : Nat → Diagnosis σ Unit) (session : Session σ) (number : Nat)
    (homes : List Nat) (strays : List (Task σ)) :
    Transcript.events (session.follow diagnose number strays).notes =
      (session.reruns diagnose number homes strays).flatMap Rerun.events := by
  induction session generalizing number homes strays with
  | ended reply state => rfl
  | rerun state resume ih =>
    unfold Session.follow Session.reruns
    rw [Transcript.events_append, Transcript.events_cons_call, List.flatMap_cons, ← ih]
    rfl

/-- The batteries of a session are numbered in their order. -/
theorem numbers_reruns (diagnose : Nat → Diagnosis σ Unit) (session : Session σ) (number : Nat)
    (homes : List Nat) (strays : List (Task σ)) :
    (session.reruns diagnose number homes strays).map Rerun.number =
      List.range' number (session.reruns diagnose number homes strays).length := by
  induction session generalizing number homes strays with
  | ended reply state => rfl
  | rerun state resume ih =>
    unfold Session.reruns
    rw [List.map_cons, List.length_cons, List.range'_succ, ih]

section

variable (caps : Capabilities) (config : Config) (board : Board σ) (conditions : Nat → Conditions)

/-- The units that the battery of a number launches. -/
def unitsOf (number : Nat) : List (CheckUnit σ) :=
  registry caps board (conditions number).hostChecks

/-- A stray is of a unit that its home has launched, and the home is earlier than this number.
Where the strays come from that were there before the session is left open. -/
def LaunchedBy (number home : Nat) (unit : CheckUnit σ) : Prop :=
  home < number ∧ (0 < home → unit ∈ unitsOf caps board conditions home)

namespace Rerun

variable (rerun : Rerun σ)

/-- The units that the battery launches. -/
def units : List (CheckUnit σ) := unitsOf caps board conditions rerun.number

/-- The signals that these units send in the concurrent phase of the battery. -/
def sent : List (Nat × Signal) :=
  Phase.allSignals (rerun.units caps board conditions) (conditions rerun.number).schedule
    (conditions rerun.number).phaseTimes rerun.before

/-- The ways in which the bodies of these units end in that phase. -/
def ended : List (Nat × Reply CheckResult) :=
  Phase.allBodyEnds (rerun.units caps board conditions) (conditions rerun.number).schedule
    (conditions rerun.number).phaseTimes rerun.before

/-- A battery keeps what is its own apart from what late units of earlier batteries do. -/
structure KeepsApart : Prop where
  ran : rerun.course =
    rerunBattery caps config board (conditions rerun.number) rerun.before
  strays : List.Forall₂ (LaunchedBy caps board conditions rerun.number) rerun.homes
    (rerun.before.strays.map Task.unit)
  /-- Late units send to the barriers of their homes.  What those hold makes no difference, and at
  no moment does the barrier of this battery hold or count a signal of theirs. -/
  shown : ∀ earlier : List Barrier, earlier.length = rerun.number → ∀ picks,
    (LinkedPhase.begin rerun.number (rerun.units caps board conditions) rerun.before rerun.homes
        earlier).ShownBy (Phase.start (rerun.units caps board conditions) rerun.before)
      (conditions rerun.number).phaseTimes picks
  /-- A unit of its own signals once, -/
  once : ((rerun.sent caps board conditions).map Prod.fst).Nodup
  /-- and the signal tells how the body of that unit has ended in this battery. -/
  told : ∀ n signal, (n, signal) ∈ rerun.sent caps board conditions →
    ∃ unit reply, (rerun.units caps board conditions)[n]? = some unit ∧
      (n, reply) ∈ rerun.ended caps board conditions ∧
      signal = ⟨unit.name, (conditions rerun.number).phaseTimes.unit n, .ofReply reply⟩
  /-- These signals and ends decide what the battery publishes of units, and whether its concurrent
  phase is released or fails. -/
  trace : OwnBatteryTrace caps config (conditions rerun.number)
    (rerun.units caps board conditions) (rerun.sent caps board conditions)
    (rerun.ended caps board conditions) rerun.course.result rerun.events

end Rerun

/-- Strays come from earlier batteries. -/
theorem forall_home_lt {number : Nat} {homes : List Nat} {strays : List (CheckUnit σ)}
    (launched : List.Forall₂ (LaunchedBy caps board conditions number) homes strays) :
    ∀ home ∈ homes, home < number := by
  induction launched with
  | nil => nofun
  | cons first _ ih => exact List.forall_mem_cons.mpr ⟨first.1, ih⟩

/-- Units that a battery leaves behind are strays of it for every later one. -/
theorem launchedBy_replicate {number home : Nat} (lt : home < number)
    {late : List (CheckUnit σ)} (own : ∀ unit ∈ late, unit ∈ unitsOf caps board conditions home) :
    List.Forall₂ (LaunchedBy caps board conditions number) (List.replicate late.length home)
      late := by
  induction late with
  | nil => exact .nil
  | cons unit late ih =>
    obtain ⟨first, rest⟩ := List.forall_mem_cons.mp own
    exact .cons ⟨lt, fun _ => first⟩ (ih rest)

/-- What a battery publishes is decided by the signals and body ends of its own units. -/
theorem runBattery_ownTrace (number : Nat) (world : World σ) :
    OwnBatteryTrace caps config (conditions number) (unitsOf caps board conditions number)
      (Phase.allSignals (unitsOf caps board conditions number) (conditions number).schedule
        (conditions number).phaseTimes world)
      (Phase.allBodyEnds (unitsOf caps board conditions number) (conditions number).schedule
        (conditions number).phaseTimes world)
      (runBattery caps config board .rerun (conditions number) world).result
      (Transcript.events
        (runBattery caps config board .rerun (conditions number) world).notes) := by
  have units : OwnTrace (unitsOf caps board conditions number) (conditions number).phaseTimes.phase
      _ _ (runRegistered caps board (conditions number) world).result
      (Transcript.events (runRegistered caps board (conditions number) world).notes) :=
    runConcurrent_ownTrace (unitsOf caps board conditions number) (conditions number).schedule
      (conditions number).phaseTimes world
  rcases ends : (runRegistered caps board (conditions number) world).result with fault | count
  · rw [ends] at units
    rw [runBattery_of_error caps config board .rerun (conditions number) ends]
    exact .concurrent units
  · have rest := runSequential_trace caps config board .rerun (conditions number)
      (runRegistered caps board (conditions number) world).state
    rw [ends] at units
    rw [runBattery_of_ok caps config board .rerun (conditions number) ends,
      Transcript.events_append]
    exact .sequential units rest (unitFree_of_sequentialTrace rest)

/-- A battery among strays that were launched by earlier ones keeps apart from them. -/
theorem keepsApart_of_launchedBy {number : Nat} {homes : List Nat} {world : World σ}
    (strays : List.Forall₂ (LaunchedBy caps board conditions number) homes
      (world.strays.map Task.unit)) :
    Rerun.KeepsApart caps config board conditions
      ⟨number, homes, world, rerunBattery caps config board (conditions number) world⟩ := by
  have account := Phase.account_final (unitsOf caps board conditions number)
    (conditions number).phaseTimes (conditions number).schedule world
  have homed : homes.length = world.strays.length := by
    rw [strays.length_eq, List.length_map]
  have all_earlier := forall_home_lt caps board conditions strays
  constructor
  case ran => rfl
  case strays => exact strays
  case shown =>
    intro earlier kept picks
    exact LinkedPhase.run_begin _ homed all_earlier kept _ picks
  case once => exact account.nodup_sent
  case told => exact fun n signal => account.of_mem_sent
  case trace => exact runBattery_ownTrace caps config board conditions number world

/-- The units that a battery leaves at work are at home in it. -/
theorem launchedBy_after {number : Nat} {homes : List Nat} {world : World σ}
    (strays : List.Forall₂ (LaunchedBy caps board conditions number) homes
      (world.strays.map Task.unit)) :
    let after := (rerunBattery caps config board (conditions number) world).state
    List.Forall₂ (LaunchedBy caps board conditions (number + 1))
      (homes ++ List.replicate (after.strays.length - world.strays.length) number)
      (after.strays.map Task.unit) := by
  intro after
  obtain ⟨late, joined, own⟩ : ∃ late,
      after.strays.map Task.unit = world.strays.map Task.unit ++ late ∧
        ∀ unit ∈ late, unit ∈ unitsOf caps board conditions number :=
    map_unit_strays_runBattery caps config board .rerun (conditions number) world
  have left : after.strays.length - world.strays.length = late.length := by
    have count := congrArg List.length joined
    rw [List.length_map, List.length_append, List.length_map] at count
    rw [count, Nat.add_sub_cancel_left]
  rw [left, joined]
  refine List.rel_append ?_ ?_
  · exact strays.imp fun home unit launched => ⟨Nat.lt_succ_of_lt launched.1, launched.2⟩
  · exact launchedBy_replicate caps board conditions (Nat.lt_succ_self number) own

/-- By induction on the session, each battery keeps apart from all earlier ones. -/
theorem keepsApart_reruns (session : Session σ) (number : Nat) {homes : List Nat}
    {strays : List (Task σ)}
    (launched : List.Forall₂ (LaunchedBy caps board conditions number) homes
      (strays.map Task.unit)) :
    ∀ rerun ∈ session.reruns (fun n => rerunBattery caps config board (conditions n)) number homes
        strays, rerun.KeepsApart caps config board conditions := by
  induction session generalizing number homes strays with
  | ended reply state => nofun
  | rerun state resume ih =>
    intro rerun member
    rcases List.mem_cons.mp member with rfl | later
    · exact keepsApart_of_launchedBy caps config board conditions launched
    · exact ih _ _ _ (launchedBy_after caps config board conditions launched) rerun later

/-- The batteries of a device-mode session, whatever the board makes of their results and whenever
late units of the aborted ones finish.  The session publishes what its batteries publish, one after
another, and each of them keeps what is its own apart from the late units of those before it. -/
theorem reruns_keep_apart (world : World σ) :
    let diagnose number := rerunBattery caps config board (conditions number)
    let reruns := (board.serve caps world.board).reruns diagnose 1
      (List.replicate world.strays.length 0) world.strays
    Transcript.events (serveDeviceMode caps board diagnose world).notes =
        reruns.flatMap Rerun.events ∧
      reruns.map Rerun.number = List.range' 1 reruns.length ∧
      ∀ rerun ∈ reruns, rerun.KeepsApart caps config board conditions := by
  intro diagnose reruns
  have events := events_follow diagnose (board.serve caps world.board) 1
    (List.replicate world.strays.length 0) world.strays
  have strays : List.Forall₂ (LaunchedBy caps board conditions 1)
      (List.replicate world.strays.length 0) (world.strays.map Task.unit) := by
    induction world.strays with
    | nil => exact .nil
    | cons stray strays ih => exact .cons ⟨Nat.one_pos, nofun⟩ ih
  exact ⟨events, numbers_reruns diagnose _ 1 _ _,
    keepsApart_reruns caps config board conditions _ 1 strays⟩

end

/-- Conditions of batteries that overlap: in the first one, the sleep check breaks off while all
other units are at work; in those after it, the file check fails, and five late units finish
first. -/
def Conditions.overlapping : Nat → Conditions
  | 1 =>
    { Conditions.quiet with
      hostChecks := fun check =>
        if check = .sleep then ⟨[], .error (.text "clock stopped")⟩ else .ended [] (.ok ())
      schedule := List.replicate 8 .runner ++ List.replicate 4 (.unit 2) }
  | _ =>
    { Conditions.quiet with
      hostChecks := fun check =>
        if check = .files then .failed [] "no space" else .ended [] (.ok ())
      schedule := List.replicate 8 .runner ++
        (List.range 5).flatMap fun stray => List.replicate 4 (.stray stray) }

/-- The five late units of the first battery signal during the second one, all of them passed,
before any unit of the second battery does; the second battery publishes that its own file check
failed. -/
theorem reruns_keep_apart_from_five_late_units :
    let script : Script := .reading [] 2
    let caps : Capabilities := ⟨.physical, .imx6UL, 528000000, "i.MX6UL"⟩
    let diagnose number :=
      rerunBattery caps .standard script.board (Conditions.overlapping number)
    let reruns := (script.board.serve caps script.start).reruns diagnose 1 [] []
    let sends (rerun : Rerun Script.Position) :=
      (LinkedPhase.begin rerun.number (rerun.units caps script.board Conditions.overlapping)
          rerun.before rerun.homes (List.replicate rerun.number (.ofExpected 6))).sends
        (Conditions.overlapping rerun.number).phaseTimes
        ((Conditions.overlapping rerun.number).schedule ++ Phase.finishing 6)
    let units := ["fs", "timer", "sleep", "rng", "ecdsa", "btc"]
    (∀ rerun ∈ reruns, rerun.KeepsApart caps .standard script.board Conditions.overlapping) ∧
      reruns.map Rerun.homes = [[], [1, 1, 1, 1, 1]] ∧
      (reruns.map fun rerun => (sends rerun).map fun s => (s.home, s.signal.name)) =
        [[(1, "sleep")],
          ["fs", "timer", "rng", "ecdsa", "btc"].map (Prod.mk 1) ++ units.map (Prod.mk 2)] ∧
      (reruns.map fun rerun => rerun.events.filter Event.isOfUnits) =
        [launches units ++ completions [⟨"sleep", .zero, .aborted "clock stopped"⟩],
          launches units ++ completions (⟨"fs", .zero, .failed "no space"⟩ ::
            units.tail.map fun name => ⟨name, .zero, .passed⟩) ++
              [.concurrentReleased 6 .zero]] := by
  intro script caps diagnose reruns sends units
  have apart := (reruns_keep_apart caps .standard script.board Conditions.overlapping
    (.ofBoard script.start)).2.2
  exact ⟨apart, by decide +kernel, by decide +kernel, by decide +kernel⟩

end BoardDiagnostics
