import BoardDiagnostics.Proofs.Gates.Battery
import BoardDiagnostics.Proofs.Run.Courses
import BoardDiagnostics.Proofs.Run.Probe

/-!
# The calls of a run

A run calls the board in three parts: the probe, the first battery and, if that succeeds on the
right hardware, the device-mode service with the batteries that it asks for.
-/

set_option autoImplicit false

namespace BoardDiagnostics

variable {σ α β : Type}

/-! ### The probe -/

namespace Work

variable {request : σ → Reply α × σ} (record : Reply α → Call) {s : σ}

/-- An answered request stands in front of what follows it. -/
theorem notes_ask_bind_of_ok {a : α} (answered : (request s).1 = .ok a) (next : α → Work σ β) :
    ((ask request record >>= next) s).notes =
      .call (record (.ok a)) :: (next a (request s).2).notes := by
  rw [ask_bind_apply record answered]

/-- A request in which the board panics is the last one. -/
theorem notes_ask_bind_of_error {panic : Panic} (broke : (request s).1 = .error panic)
    (next : α → Work σ β) :
    ((ask request record >>= next) s).notes = [.call (record (.error panic))] := by
  rw [ask_bind_apply_of_error record broke]

end Work

namespace Capabilities

variable (board : Board σ) (config : Config) {start : σ}

/-- If the board panics when it is asked what it is, that is all the probe notes. -/
theorem notes_probe_of_panic {panic : Panic} (broke : (board.silicon start).1 = .error panic) :
    (probe board config start).notes = [.call (.silicon (.error panic))] :=
  Work.notes_ask_bind_of_error _ broke _

variable {silicon : Silicon} (read : (board.silicon start).1 = .ok silicon)

include read

/-- An emulated board is asked what it is and how fast its clock is, and told nothing. -/
theorem notes_probe_of_emulated (emulated : silicon.native = false) :
    (probe board config start).notes = [.call (.silicon (.ok silicon)),
      .call (.frequency (board.frequency (board.silicon start).2).1)] := by
  unfold probe Board.readSilicon
  rw [Work.notes_ask_bind_of_ok _ read, emulated, if_neg Bool.false_ne_true]
  unfold Board.readFrequency
  rcases clock : (board.frequency (board.silicon start).2).1 with panic | hz
  · rw [Work.notes_ask_bind_of_error _ clock]
  · rw [Work.notes_ask_bind_of_ok _ clock]
    rfl

/-- On the physical part the clock is requested, and nothing but the clock is read after that. -/
theorem calls_probe_of_native (native : silicon.native = true) :
    ∃ reply clock, Note.calls (probe board config start).notes =
      .silicon (.ok silicon) :: .setFrequency config.targetCpuMhz.toNat reply :: clock ∧
        ∀ call ∈ clock, ∃ hz, call = .frequency hz := by
  unfold probe Board.readSilicon
  rw [Work.notes_ask_bind_of_ok _ read, native, if_pos rfl]
  unfold Board.requestFrequency
  let after := (board.setFrequency config.targetCpuMhz.toNat (board.silicon start).2).2
  have reads : Note.calls ((board.readFrequency >>= fun hz => (do
        let caps : Capabilities := ⟨.physical, silicon.family, hz, silicon.model⟩
        Work.say (identityLine silicon caps)
        pure caps : Work σ Capabilities)) after).notes = [.frequency (board.frequency after).1] := by
    unfold Board.readFrequency
    rcases clock : (board.frequency after).1 with panic | hz
    · rw [Work.notes_ask_bind_of_error _ clock]
      rfl
    · rw [Work.notes_ask_bind_of_ok _ clock]
      rfl
  have clock : ∀ call ∈ [Call.frequency (board.frequency after).1], ∃ hz, call = .frequency hz :=
    fun call member => ⟨_, List.mem_singleton.mp member⟩
  rcases asked : (board.setFrequency config.targetCpuMhz.toNat (board.silicon start).2).1
    with panic | fault | ⟨⟩
  · rw [Work.notes_ask_bind_of_error _ asked]
    exact ⟨_, [], rfl, nofun⟩
  · rw [Work.notes_ask_bind_of_ok _ asked]
    exact ⟨_, _, congrArg (fun calls => _ :: _ :: calls) reads, clock⟩
  · rw [Work.notes_ask_bind_of_ok _ asked]
    exact ⟨_, _, congrArg (fun calls => _ :: _ :: calls) reads, clock⟩

/-- The record of a probe tells what was read. -/
theorem probe_record {caps : Capabilities} (probed : (probe board config start).result = .ok caps) :
    caps.isPhysical = silicon.native ∧ caps.family = silicon.family ∧
      caps.model = silicon.model := by
  have recorded : ∀ environment reply, afterClock environment silicon reply = .ok caps →
      caps.environment = environment ∧ caps.family = silicon.family ∧
        caps.model = silicon.model := by
    intro environment reply made
    rcases reply with panic | hz
    · cases made
    · cases made
      exact ⟨rfl, rfl, rfl⟩
  cases native : silicon.native with
  | false =>
    rw [probe_of_emulated board config read native] at probed
    obtain ⟨environment, rest⟩ := recorded _ _ probed
    exact ⟨by simp [isPhysical, environment], rest⟩
  | true =>
    rcases asked : (board.setFrequency config.targetCpuMhz.toNat (board.silicon start).2).1
      with panic | answer
    · rw [probe_of_clock_panic board config read native asked] at probed
      cases probed
    · rw [probe_of_clock board config read native asked] at probed
      obtain ⟨environment, rest⟩ := recorded _ _ probed
      exact ⟨by simp [isPhysical, environment], rest⟩

end Capabilities

/-! ### Batteries -/

/-- A battery that was run: the world that it began in, and its course. -/
structure RanBattery (σ : Type) where
  before : World σ
  course : Course Entry (World σ) Fault Unit

/-- The calls that were made while a battery ran. -/
def RanBattery.calls (battery : RanBattery σ) : List Call := Transcript.calls battery.course.notes

/-- The batteries that a session asks for. -/
def Session.batteries (diagnose : Nat → Diagnosis σ Unit) :
    Session σ → Nat → List (Task σ) → List (RanBattery σ)
  | .ended _ _, _, _ => []
  | .rerun board resume, number, strays =>
    let course := diagnose number ⟨board, strays⟩
    ⟨⟨board, strays⟩, course⟩ ::
      batteries diagnose (resume course.result course.state.board) (number + 1)
        course.state.strays

/-- The calls of a session are those of its batteries, each followed by the word about its end. -/
theorem calls_follow (diagnose : Nat → Diagnosis σ Unit) (session : Session σ) (number : Nat)
    (strays : List (Task σ)) :
    ∃ reply, Transcript.calls (session.follow diagnose number strays).notes =
      ((session.batteries diagnose number strays).flatMap fun battery =>
        battery.calls ++ [.rerunEnded battery.course.result]) ++ [.serveEnded reply] := by
  induction session generalizing number strays with
  | ended reply state => exact ⟨reply, rfl⟩
  | rerun state resume ih =>
    let course := diagnose number ⟨state, strays⟩
    obtain ⟨reply, rest⟩ := ih course.result course.state.board (number + 1) course.state.strays
    refine ⟨reply, ?_⟩
    unfold Session.follow Session.batteries
    simp only [Transcript.calls_append, Transcript.calls_cons_call, List.flatMap_cons]
    rw [rest]
    simp [RanBattery.calls, course]

/-- Batteries each of which adds at most one call to the cipher to those that are owed. -/
theorem within_batteries {caps : Capabilities} {diagnose : Nat → Diagnosis σ Unit}
    (keeps : ∀ number, Diagnosis.Keeps caps 1 (diagnose number)) (session : Session σ)
    (number : Nat) {strays : List (Task σ)} (gated : ∀ task ∈ strays, task.unit.Gated caps) :
    ∀ battery ∈ session.batteries diagnose number strays,
      WithinGates caps (battery.before.owed + 1) battery.course.notes battery.course.state.owed := by
  induction session generalizing number strays with
  | ended reply state => nofun
  | rerun state resume ih =>
    obtain ⟨after, within⟩ := keeps number ⟨state, strays⟩ gated
    intro battery member
    rcases List.mem_cons.mp member with rfl | later
    · exact within
    · exact ih _ _ _ after battery later

/-- All of them together add at most as many calls as there are batteries. -/
theorem ciphers_follow {caps : Capabilities} {diagnose : Nat → Diagnosis σ Unit}
    (keeps : ∀ number, Diagnosis.Keeps caps 1 (diagnose number)) (session : Session σ)
    (number : Nat) {strays : List (Task σ)} (gated : ∀ task ∈ strays, task.unit.Gated caps) :
    Transcript.ciphers (session.follow diagnose number strays).notes ≤
      strays.countP Task.owesCipher + (session.batteries diagnose number strays).length := by
  induction session generalizing number strays with
  | ended reply state => exact Nat.zero_le _
  | rerun state resume ih =>
    let course := diagnose number ⟨state, strays⟩
    let resumed := resume course.result course.state.board
    let rest := resumed.follow diagnose (number + 1) course.state.strays
    obtain ⟨after, within⟩ := keeps number ⟨state, strays⟩ gated
    have more : Transcript.ciphers rest.notes ≤ World.owed course.state +
        (resumed.batteries diagnose (number + 1) course.state.strays).length := ih _ _ _ after
    have paid : Transcript.ciphers course.notes + course.state.owed ≤
        strays.countP Task.owesCipher + 1 := within.cipher
    show (Transcript.calls (course.notes ++ .call (.rerunEnded _) :: rest.notes)).countP
        Call.isEncrypt ≤ strays.countP Task.owesCipher +
      ((resumed.batteries diagnose (number + 1) course.state.strays).length + 1)
    rw [Transcript.calls_append, List.countP_append, Transcript.calls_cons_call,
      List.countP_cons_of_neg Bool.false_ne_true]
    -- What the battery hands on is among the debts of those after it.
    unfold Transcript.ciphers at more paid
    omega

/-- A rerun keeps within its gates as the first battery does. -/
theorem keeps_rerunBattery {caps : Capabilities} (config : Config) (board : Board σ)
    (conditions : Conditions) :
    Diagnosis.Keeps caps 1 (rerunBattery caps config board conditions) := by
  intro world gated
  unfold rerunBattery
  rw [Diagnosis.say_bind_apply]
  obtain ⟨after, within⟩ := keeps_runBattery board config .rerun conditions world gated
  refine ⟨after, ?_⟩
  have announced : WithinGates caps (world.owed + 1)
    [.line (.info "re-running diagnostics from device mode")] (world.owed + 1) := .silent rfl
  exact announced.append within

/-! ### The run -/

namespace Conduct

variable (next : α → Conduct σ β)

/-- Publishing calls nothing. -/
theorem calls_publish_bind (event : Event) (next : Unit → Conduct σ β) (state : RunState σ) :
    Transcript.calls ((publish event >>= next) state).notes =
      Transcript.calls (next () state).notes := rfl

/-- Printing calls nothing. -/
theorem calls_say_bind (line : Line) (next : Unit → Conduct σ β) (state : RunState σ) :
    Transcript.calls ((say line >>= next) state).notes = Transcript.calls (next () state).notes := rfl

/-- Entering a stage calls nothing. -/
theorem calls_enter_bind (later stage : Stage) (next : Unit → Conduct σ β) (world : World σ) :
    Transcript.calls ((enter later >>= next) ⟨stage, world⟩).notes =
      Transcript.calls (next () ⟨later, world⟩).notes := rfl

/-- What follows a first part with a result makes its calls behind those of that part. -/
theorem calls_bind_of_ok {first : Conduct σ α} {state : RunState σ} {a : α}
    (ends : (first state).result = .ok a) :
    Transcript.calls ((first >>= next) state).notes =
      Transcript.calls (first state).notes ++
        Transcript.calls (next a (first state).state).notes := by
  rw [Activity.bind_of_ok ends]
  exact Transcript.calls_append _ _

/-- A first part that fails makes all calls of a sequence. -/
theorem calls_bind_of_error {first : Conduct σ α} {state : RunState σ} {fault : Fault}
    (fails : (first state).result = .error fault) :
    Transcript.calls ((first >>= next) state).notes = Transcript.calls (first state).notes := by
  rw [Activity.bind_of_error fails]

variable {diagnosis : Diagnosis σ α} {world : World σ} (stage : Stage)

/-- What follows a diagnosis with a result makes its calls behind those of the diagnosis. -/
theorem calls_inWorld_bind_of_ok {a : α} (ends : (diagnosis world).result = .ok a) :
    Transcript.calls ((inWorld diagnosis >>= next) ⟨stage, world⟩).notes =
      Transcript.calls (diagnosis world).notes ++
        Transcript.calls (next a ⟨stage, (diagnosis world).state⟩).notes := by
  have ends : (inWorld diagnosis ⟨stage, world⟩).result = .ok a := ends
  exact calls_bind_of_ok next ends

/-- A diagnosis that fails makes all calls of a sequence. -/
theorem calls_inWorld_bind_of_error {fault : Fault}
    (fails : (diagnosis world).result = .error fault) :
    Transcript.calls ((inWorld diagnosis >>= next) ⟨stage, world⟩).notes =
      Transcript.calls (diagnosis world).notes := by
  have fails : (inWorld diagnosis ⟨stage, world⟩).result = .error fault := fails
  exact calls_bind_of_error next fails

end Conduct

namespace Orchestrator

open Conduct

variable (board : Board σ) (config : Config) (surroundings : Surroundings) (start : σ)
  (caps : Capabilities)

/-- The first battery of a run, in the world that the probe leaves. -/
def firstBattery : RanBattery σ :=
  ⟨.ofBoard (probeCourse board config start).state,
    runBattery caps config board .startup (surroundings.battery 0)
      (.ofBoard (probeCourse board config start).state)⟩

/-- The batteries that the device-mode service asks for. -/
def laterBatteries : List (RanBattery σ) :=
  (session board config surroundings start caps).batteries
    (fun number => rerunBattery caps config board (surroundings.battery number)) 1
    (sequentialCourse board config surroundings start caps).state.strays

/-- The run enters the device-mode service. -/
def servesDeviceMode : Bool :=
  caps.supportsDeviceMode && (firstBattery board config surroundings start caps).course.result.isOk

/-- All batteries of a run. -/
def batteries : List (RanBattery σ) :=
  firstBattery board config surroundings start caps ::
    if servesDeviceMode board config surroundings start caps
      then laterBatteries board config surroundings start caps else []

/-- The calls of the device-mode service. -/
def serviceCalls : List Call :=
  .serveBegun caps :: Transcript.calls (serviceCourse board config surroundings start caps).notes

/-- The calls of a run after its probe. -/
def callsAfterProbe : List Call :=
  (firstBattery board config surroundings start caps).calls ++
    if servesDeviceMode board config surroundings start caps
      then serviceCalls board config surroundings start caps else []

variable {board config surroundings start caps}

/-- If the concurrent phase fails, it is all there is of the first battery. -/
theorem firstBattery_of_aborted {fault : Fault}
    (aborted : (concurrentCourse board config surroundings start caps).result = .error fault) :
    (firstBattery board config surroundings start caps).course =
      let units := concurrentCourse board config surroundings start caps
      ⟨.error fault, units.state, units.notes⟩ := by
  have fails : (runRegistered caps board (surroundings.battery 0) (.ofBoard _)).result =
    .error fault := aborted
  unfold firstBattery runBattery
  rw [Activity.bind_of_error fails]
  rfl

/-- If the concurrent phase is through, the first battery ends as its sequential phase does. -/
theorem firstBattery_of_released {units : Nat}
    (released : (concurrentCourse board config surroundings start caps).result = .ok units) :
    (firstBattery board config surroundings start caps).course =
      let steps := sequentialCourse board config surroundings start caps
      ⟨steps.result, steps.state,
        (concurrentCourse board config surroundings start caps).notes ++ steps.notes⟩ := by
  have ends : (runRegistered caps board (surroundings.battery 0) (.ofBoard _)).result =
    .ok units := released
  unfold firstBattery runBattery
  rw [Activity.bind_of_ok ends]
  rfl

/-- The service is entered on the right hardware after both phases have succeeded. -/
theorem servesDeviceMode_iff :
    servesDeviceMode board config surroundings start caps = true ↔
      caps.supportsDeviceMode = true ∧
        (∃ units, (concurrentCourse board config surroundings start caps).result = .ok units) ∧
        (sequentialCourse board config surroundings start caps).result = .ok () := by
  unfold servesDeviceMode
  rw [Bool.and_eq_true]
  refine and_congr_right fun _ => ?_
  rcases launched : (concurrentCourse board config surroundings start caps).result with fault | units
  · rw [firstBattery_of_aborted launched]
    simp [Except.isOk, Except.toBool]
  · rw [firstBattery_of_released launched]
    rcases (sequentialCourse board config surroundings start caps).result with fault | ⟨⟩
    · simp [Except.isOk, Except.toBool]
    · simp [Except.isOk, Except.toBool]

/-- The calls of the last part of a run. -/
theorem calls_ending :
    Transcript.calls (ending board config surroundings caps
        ⟨.sequentialPhase, (sequentialCourse board config surroundings start caps).state⟩).notes =
      if caps.supportsDeviceMode then serviceCalls board config surroundings start caps else [] := by
  obtain ⟨reply, served⟩ := serviceCourse_result board config surroundings start caps
  unfold ending
  split
  · unfold enterDeviceMode
    rw [calls_enter_bind, calls_say_bind, calls_publish_bind]
    have served : (serveDeviceMode caps board (fun number =>
        rerunBattery caps config board (surroundings.battery number))
        (sequentialCourse board config surroundings start caps).state).result = .ok reply := served
    rw [calls_inWorld_bind_of_ok _ _ served]
    exact List.append_nil _
  · rfl

/-- The calls of what is left of a run after the probe. -/
theorem calls_remainder :
    Transcript.calls (remainder board config surroundings caps
        ⟨.concurrentPhase, .ofBoard (probeCourse board config start).state⟩).notes =
      callsAfterProbe board config surroundings start caps := by
  unfold remainder callsAfterProbe RanBattery.calls servesDeviceMode
  rcases launched : (concurrentCourse board config surroundings start caps).result with fault | units
  · rw [calls_inWorld_bind_of_error _ _ launched, firstBattery_of_aborted launched]
    simp only [Except.isOk, Except.toBool, Bool.and_false, Bool.false_eq_true, if_false,
      List.append_nil]
    rfl
  rw [calls_inWorld_bind_of_ok _ _ launched, calls_enter_bind, firstBattery_of_released launched]
  show _ ++ Transcript.calls ((inWorld (runSequential _ _ _ _ _) >>= _) ⟨.sequentialPhase,
    (concurrentCourse board config surroundings start caps).state⟩).notes = _
  rcases finished : (sequentialCourse board config surroundings start caps).result with fault | ⟨⟩
  · rw [calls_inWorld_bind_of_error _ _ finished]
    simp only [Except.isOk, Except.toBool, Bool.and_false, Bool.false_eq_true, if_false,
      List.append_nil, Transcript.calls_append]
    rfl
  · have ends := calls_inWorld_bind_of_ok
      (fun _ => ending board config surroundings caps) .sequentialPhase finished
    simp only [Except.isOk, Except.toBool, Bool.and_true, Transcript.calls_append,
      List.append_assoc, ends]
    exact congrArg _ (congrArg _ calls_ending)

/-- A run makes the calls of the probe as the probe does on its own. -/
theorem calls_probeBoard (task : Nat) :
    Transcript.calls (probeBoard board config task ⟨.probing, .ofBoard start⟩).notes =
      Note.calls (probeCourse board config start).notes := by
  have asked : (Diagnosis.onBoard (Capabilities.probe board config) (.ofBoard start)).result =
      .ok (probeCourse board config start).result := rfl
  unfold probeBoard
  rw [calls_inWorld_bind_of_ok _ _ asked]
  rcases (probeCourse board config start).result with panic | caps
  · exact List.append_nil _
  · exact List.append_nil _

/-- A run whose probe panics calls nothing else. -/
theorem calls_conduct_of_panic (build : Build) {panic : Panic}
    (broke : (probeCourse board config start).result = .error panic) :
    Transcript.calls (conduct board config build surroundings ⟨.probing, .ofBoard start⟩).notes =
      Note.calls (probeCourse board config start).notes := by
  have fails := (came_probeBoard surroundings.probeTask broke).result_eq
  unfold conduct
  rw [calls_publish_bind, ← calls_probeBoard surroundings.probeTask]
  exact calls_bind_of_error _ fails

/-- Behind the calls of a probe that is through come those of the batteries and of the device-mode
service. -/
theorem calls_conduct (build : Build) (probed : (probeCourse board config start).result = .ok caps) :
    Transcript.calls (conduct board config build surroundings ⟨.probing, .ofBoard start⟩).notes =
      Note.calls (probeCourse board config start).notes ++
        callsAfterProbe board config surroundings start caps := by
  have came := came_probeBoard surroundings.probeTask probed
  unfold conduct
  rw [calls_publish_bind, ← calls_probeBoard surroundings.probeTask, ← calls_remainder]
  refine (calls_bind_of_ok _ came.result_eq).trans ?_
  rw [came.state_eq, calls_say_bind, calls_enter_bind]
  rfl

end Orchestrator

end BoardDiagnostics
