import BoardDiagnostics.Proofs.Gates.Calls
import BoardDiagnostics.Proofs.Gates.Emulated
import BoardDiagnostics.Proofs.Gates.Identity

/-!
# The gates over a whole run

What a run may ask of the board is decided by the one reading of the identity with which it begins.
On emulated hardware the run sees nothing of the board but this reading and the clock.  On the
physical part the gates hold for the first battery and for every battery that device mode asks for.
-/

set_option autoImplicit false

namespace BoardDiagnostics

variable {σ τ α : Type}

/-! ### What the batteries and the service call -/

namespace Orchestrator

variable {board : Board σ} {config : Config} {build : Build} {surroundings : Surroundings}
  {start : σ} {caps : Capabilities}

/-- The first battery starts without strays, so it calls the cipher once at most. -/
theorem within_firstBattery :
    WithinGates caps 1 (firstBattery board config surroundings start caps).course.notes
      (firstBattery board config surroundings start caps).course.state.owed :=
  (keeps_runBattery board config .startup _ (.ofBoard _) (by simp [World.Gated, World.ofBoard])).2

/-- What the first battery leaves behind is gated. -/
theorem gated_sequentialCourse :
    (sequentialCourse board config surroundings start caps).state.Gated caps := by
  have calm : World.Gated caps (.ofBoard (probeCourse board config start).state) := by
    simp [World.Gated, World.ofBoard]
  have units := (keeps_runRegistered board (surroundings.battery 0) _ calm).1
  exact (keeps_runSequential board config .startup (surroundings.battery 0) _ units).1

/-- Every rerun keeps within its gates. -/
theorem keeps_reruns (number : Nat) : Diagnosis.Keeps caps 1
    (rerunBattery caps config board (surroundings.battery number)) :=
  keeps_rerunBattery config board _

/-- Every battery of a run calls the cipher once at most, besides the strays of earlier ones. -/
theorem within_of_mem_batteries {battery : RanBattery σ}
    (member : battery ∈ batteries board config surroundings start caps) :
    WithinGates caps (battery.before.owed + 1) battery.course.notes battery.course.state.owed := by
  rcases List.mem_cons.mp member with rfl | later
  · exact within_firstBattery
  · split at later
    · exact within_batteries keeps_reruns _ 1 gated_sequentialCourse battery later
    · cases later

/-- What the service calls is permitted, or tells how far the service has come. -/
theorem mem_serviceCalls {call : Call}
    (member : call ∈ (serviceCalls board config surroundings start caps).tail) :
    call.PermittedBy caps ∨ (∃ result, call = .rerunEnded result) ∨
      ∃ reply, call = .serveEnded reply := by
  obtain ⟨reply, parts⟩ := calls_follow
    (fun number => rerunBattery caps config board (surroundings.battery number))
    (session board config surroundings start caps) 1
    (sequentialCourse board config surroundings start caps).state.strays
  have member : call ∈ Transcript.calls
    (serviceCourse board config surroundings start caps).notes := member
  unfold serviceCourse at member
  rw [parts] at member
  rcases List.mem_append.mp member with inside | last
  · obtain ⟨battery, ran, within⟩ := List.mem_flatMap.mp inside
    rcases List.mem_append.mp within with called | ended
    · exact .inl ((within_batteries keeps_reruns _ 1 gated_sequentialCourse battery ran).permitted
        call called)
    · exact .inr (.inl ⟨_, List.mem_singleton.mp ended⟩)
  · exact .inr (.inr ⟨_, List.mem_singleton.mp last⟩)

/-- The device-mode service calls the cipher once for each rerun at most, besides the strays of the
first battery. -/
theorem ciphers_serviceCalls :
    (serviceCalls board config surroundings start caps).countP Call.isEncrypt ≤
      (sequentialCourse board config surroundings start caps).state.owed +
        (laterBatteries board config surroundings start caps).length := by
  unfold serviceCalls
  rw [List.countP_cons_of_neg Bool.false_ne_true]
  exact ciphers_follow keeps_reruns _ 1 gated_sequentialCourse

/-- What is called after the probe is permitted, or belongs to the service. -/
theorem mem_callsAfterProbe {call : Call}
    (member : call ∈ callsAfterProbe board config surroundings start caps) :
    call.PermittedBy caps ∨ call = .serveBegun caps ∨ (∃ result, call = .rerunEnded result) ∨
      ∃ reply, call = .serveEnded reply := by
  rcases List.mem_append.mp member with first | service
  · exact .inl (within_firstBattery.permitted call first)
  · split at service
    · rcases List.mem_cons.mp service with begun | later
      · exact .inr (.inl begun)
      · exact (mem_serviceCalls later).imp_right .inr
    · cases service

/-- After the probe the board is not asked what it is, its clock is left alone, and the cipher is
called on an i.MX6ULL only. -/
theorem gated_of_mem_callsAfterProbe {call : Call}
    (member : call ∈ callsAfterProbe board config surroundings start caps) :
    call.isSilicon = false ∧ call.isSetFrequency = false ∧
      (call.isEncrypt = true → caps.family = .imx6ULL) := by
  rcases mem_callsAfterProbe member with permitted | rfl | ⟨_, rfl⟩ | ⟨_, rfl⟩
  · exact ⟨Call.isSilicon_of_permittedBy permitted, Call.isSetFrequency_of_permittedBy permitted,
      Call.family_of_permittedBy permitted⟩
  · exact ⟨rfl, rfl, nofun⟩
  · exact ⟨rfl, rfl, nofun⟩
  · exact ⟨rfl, rfl, nofun⟩

/-- The first battery does not enter the device-mode service. -/
theorem isServe_of_mem_firstBattery {call : Call}
    (member : call ∈ (firstBattery board config surroundings start caps).calls) :
    call.isServe = false :=
  Call.isServe_of_permittedBy (within_firstBattery.permitted call member)

/-- The device-mode service is entered once if at all. -/
theorem countP_isServe_callsAfterProbe :
    (callsAfterProbe board config surroundings start caps).countP Call.isServe =
      if servesDeviceMode board config surroundings start caps then 1 else 0 := by
  have first : (firstBattery board config surroundings start caps).calls.countP Call.isServe = 0 :=
    List.countP_eq_zero.mpr fun call member => by simp [isServe_of_mem_firstBattery member]
  have later : (serviceCalls board config surroundings start caps).tail.countP Call.isServe = 0 := by
    apply List.countP_eq_zero.mpr
    intro call member
    rcases mem_serviceCalls member with permitted | ⟨result, rfl⟩ | ⟨reply, rfl⟩
    · simp [Call.isServe_of_permittedBy permitted]
    · exact Bool.false_ne_true
    · exact Bool.false_ne_true
  unfold callsAfterProbe
  rw [List.countP_append, first, Nat.zero_add]
  split
  · show (_ :: (serviceCalls board config surroundings start caps).tail).countP Call.isServe = 1
    rw [List.countP_cons_of_pos rfl, later]
  · rfl

/-- It is entered with the capabilities that the probe found. -/
theorem serveBegun_mem_callsAfterProbe_iff {other : Capabilities} :
    .serveBegun other ∈ callsAfterProbe board config surroundings start caps ↔
      other = caps ∧ servesDeviceMode board config surroundings start caps = true := by
  constructor
  · intro member
    have same : other = caps := by
      rcases mem_callsAfterProbe member with permitted | begun | ⟨_, ended⟩ | ⟨_, ended⟩
      · exact permitted.elim
      · exact Call.serveBegun.inj begun
      · cases ended
      · cases ended
    have counted : 0 < (callsAfterProbe board config surroundings start caps).countP Call.isServe :=
      List.countP_pos_iff.mpr ⟨_, member, rfl⟩
    rw [countP_isServe_callsAfterProbe] at counted
    refine ⟨same, ?_⟩
    by_contra left_out
    rw [if_neg left_out] at counted
    exact Nat.lt_irrefl 0 counted
  · rintro ⟨rfl, serves⟩
    unfold callsAfterProbe
    rw [if_pos serves]
    exact List.mem_append_right _ List.mem_cons_self

/-- All in all, the cipher is called once for each battery at most. -/
theorem ciphers_callsAfterProbe :
    (callsAfterProbe board config surroundings start caps).countP Call.isEncrypt ≤
      (batteries board config surroundings start caps).length := by
  have first : (firstBattery board config surroundings start caps).calls.countP Call.isEncrypt +
    (firstBattery board config surroundings start caps).course.state.owed ≤ 1 :=
      within_firstBattery.cipher
  unfold callsAfterProbe batteries
  rw [List.countP_append, List.length_cons]
  split
  · next serves =>
    obtain ⟨-, ⟨units, released⟩, -⟩ := servesDeviceMode_iff.mp serves
    have handed_on : (firstBattery board config surroundings start caps).course.state =
        (sequentialCourse board config surroundings start caps).state := by
      rw [firstBattery_of_released released]
    rw [handed_on] at first
    have later : (serviceCalls board config surroundings start caps).countP Call.isEncrypt ≤ _ :=
      ciphers_serviceCalls
    omega
  · rw [List.countP_nil, List.length_nil]
    omega

end Orchestrator

/-! ### Two runs on emulated hardware -/

/-- Two runs at the same stage, in worlds with alike strays. -/
structure RunState.Alike (a : RunState σ) (b : RunState τ) : Prop where
  stage : a.stage = b.stage
  world : a.world.Alike b.world

namespace Conduct

variable {a : RunState σ} {b : RunState τ} (alike : a.Alike b)

include alike

/-- A note is the same in alike states. -/
theorem alike_note (entry : Entry) :
    Course.Alike RunState.Alike ((Activity.note entry : Conduct σ Unit) a)
      ((Activity.note entry : Conduct τ Unit) b) := ⟨rfl, rfl, alike⟩

/-- Entering a stage goes alike in alike states. -/
theorem alike_enter (next : Stage) :
    Course.Alike RunState.Alike (enter next a) (enter next b) := by
  refine ⟨rfl, ?_, rfl, alike.world⟩
  simp only [enter, alike.stage]

/-- A diagnosis that goes alike in two worlds does so within a run. -/
theorem alike_inWorld {diagnosis : Diagnosis σ α} {other : Diagnosis τ α}
    (went : Course.Alike World.Alike (diagnosis a.world) (other b.world)) :
    Course.Alike RunState.Alike (inWorld diagnosis a) (inWorld other b) :=
  ⟨went.result, went.notes, alike.stage, went.state⟩

end Conduct

namespace Orchestrator

open Conduct

section

variable {board : Board σ} {other : Board τ} (config : Config) {start : σ} {elsewhere : τ}
  {silicon : Silicon} (read : (board.silicon start).1 = .ok silicon)
  (emulated : silicon.native = false) (same : (other.silicon elsewhere).1 = (board.silicon start).1)
  (clock : (other.frequency (other.silicon elsewhere).2).1 =
    (board.frequency (board.silicon start).2).1)

include read emulated same clock

/-- The probes of two emulated boards with the same identity and clock go alike. -/
theorem alike_probeBoard (task : Nat) :
    Course.Alike RunState.Alike (probeBoard board config task ⟨.probing, .ofBoard start⟩)
      (probeBoard other config task ⟨.probing, .ofBoard elsewhere⟩) := by
  have result : (probeCourse board config start).result =
      (probeCourse other config elsewhere).result := by
    unfold probeCourse
    rw [Capabilities.probe_of_emulated board config read emulated,
      Capabilities.probe_of_emulated other config (same.trans read) emulated, clock]
  have notes : (probeCourse board config start).notes =
      (probeCourse other config elsewhere).notes := by
    unfold probeCourse
    rw [Capabilities.notes_probe_of_emulated board config read emulated,
      Capabilities.notes_probe_of_emulated other config (same.trans read) emulated, clock]
  have asked : Course.Alike World.Alike
      (Diagnosis.onBoard (Capabilities.probe board config) (.ofBoard start))
      (Diagnosis.onBoard (Capabilities.probe other config) (.ofBoard elsewhere)) :=
    ⟨congrArg Except.ok result, congrArg (List.map Entry.note) notes, .nil⟩
  have begins : RunState.Alike ⟨.probing, .ofBoard start⟩ ⟨.probing, .ofBoard elsewhere⟩ :=
    ⟨rfl, .nil⟩
  unfold probeBoard
  refine .bind (alike_inWorld begins asked) fun reply _ alike => ?_
  cases reply with
  | error panic => exact ⟨rfl, rfl, alike⟩
  | ok caps => exact ⟨rfl, rfl, alike⟩

/-- The run goes the same way on both boards. -/
theorem alike_conduct (build : Build) (surroundings : Surroundings) :
    Course.Alike RunState.Alike
      (conduct board config build surroundings ⟨.probing, .ofBoard start⟩)
      (conduct other config build surroundings ⟨.probing, .ofBoard elsewhere⟩) := by
  have begins : RunState.Alike ⟨.probing, .ofBoard start⟩ ⟨.probing, .ofBoard elsewhere⟩ :=
    ⟨rfl, .nil⟩
  have probes := alike_probeBoard config read emulated same clock surroundings.probeTask
  unfold conduct
  refine .bind (alike_note begins _) fun _ _ _ => .bind probes fun caps found alike => ?_
  have blind : caps.isPhysical = false := by
    have probed : (probeCourse board config start).result = .ok caps := by
      rcases ends : (probeCourse board config start).result with panic | record
      · cases (came_probeBoard surroundings.probeTask ends).result_eq.symm.trans found
      · cases (came_probeBoard surroundings.probeTask ends).result_eq.symm.trans found
        rfl
    exact (Capabilities.probe_record board config read probed).1.trans emulated
  have no_cipher : caps.hasHardwareCipher = false := by
    rw [← Bool.not_eq_true, Capabilities.hasHardwareCipher_iff, blind]
    simp
  have no_service : caps.supportsDeviceMode = false := by
    rw [← Bool.not_eq_true, Capabilities.supportsDeviceMode_iff, blind]
    simp
  refine .bind (alike_note alike _) fun _ _ alike => .bind (alike_enter alike _) fun _ _ alike => ?_
  refine .bind (alike_inWorld alike (alike_runRegistered alike.world board other _ no_cipher))
    fun _ _ alike => .bind (alike_enter alike _) fun _ _ alike => ?_
  refine .bind (alike_inWorld alike (alike_runSequential alike.world board other _ blind config _))
    fun _ _ alike => ?_
  rw [no_service]
  refine .bind (alike_enter alike _) fun _ _ alike => .bind (alike_note alike _)
    fun _ _ alike => .bind (alike_note alike _) fun _ _ alike => ?_
  exact ⟨rfl, rfl, alike⟩

end

/-! ### The first run -/

/-- What is meant by a run that sees nothing of the board but its identity and its clock: it goes
the same way on every other board that answers these two calls alike. -/
structure EmulatedRun (board : Board σ) (config : Config) (build : Build)
    (surroundings : Surroundings) (start : σ) (course : Course Entry (Orchestrator σ) Fault Terminal) :
    Prop where
  calls : Transcript.calls course.notes =
    [.silicon (board.silicon start).1, .frequency (board.frequency (board.silicon start).2).1]
  blind : ∀ {τ : Type} (other : Board τ) (elsewhere : τ) (twin : Orchestrator τ),
    create config build elsewhere = .ok twin →
    (other.silicon elsewhere).1 = (board.silicon start).1 →
    (other.frequency (other.silicon elsewhere).2).1 = (board.frequency (board.silicon start).2).1 →
    let otherCourse := run other surroundings twin
    otherCourse.result = course.result ∧ otherCourse.state.stage = course.state.stage ∧
      otherCourse.notes = course.notes ∧ otherCourse.state.log = course.state.log

/-- What the calls of a run on the physical part keep to. -/
structure PhysicalRun (board : Board σ) (config : Config) (surroundings : Surroundings) (start : σ)
    (silicon : Silicon) (calls : List Call) : Prop where
  /-- The clock is requested once, before anything else is asked for. -/
  clock : ∃ reply rest, calls =
      .silicon (.ok silicon) :: .setFrequency config.targetCpuMhz.toNat reply :: rest ∧
    ∀ call ∈ rest, call.isSetFrequency = false
  /-- After the probe come the calls of the first battery, and then those of the service. -/
  parts : ∀ caps, (probeCourse board config start).result = .ok caps →
    calls = Note.calls (probeCourse board config start).notes ++
      callsAfterProbe board config surroundings start caps
  cipher : ∀ call ∈ calls, call.isEncrypt = true → silicon.family = .imx6ULL
  /-- Each battery adds at most one call to the cipher to those that strays of the batteries before
  it still owe, and hands on what is not made in its time. -/
  cipher_once : ∀ caps, (probeCourse board config start).result = .ok caps →
    ∀ battery ∈ batteries board config surroundings start caps,
      Transcript.ciphers battery.course.notes + battery.course.state.owed ≤ battery.before.owed + 1
  ciphers : ∀ caps, (probeCourse board config start).result = .ok caps →
    calls.countP Call.isEncrypt ≤ (batteries board config surroundings start caps).length
  service_once : calls.countP Call.isServe ≤ 1
  service : ∀ caps, .serveBegun caps ∈ calls ↔
    (probeCourse board config start).result = .ok caps ∧
      (silicon.family = .imx6UL ∨ silicon.family = .imx6ULL) ∧
      (∃ units, (concurrentCourse board config surroundings start caps).result = .ok units) ∧
      (sequentialCourse board config surroundings start caps).result = .ok ()

section

variable {board : Board σ} {config : Config} {build : Build} {surroundings : Surroundings}
  {start : σ} {orchestrator : Orchestrator σ} {silicon : Silicon}

variable (board config start) in
/-- The identity is the first thing that a probe reads, and it is not read again. -/
theorem calls_probeCourse : ∃ rest, Note.calls (probeCourse board config start).notes =
    .silicon (board.silicon start).1 :: rest ∧
      ∀ call ∈ rest, call.isSilicon = false ∧ call.isEncrypt = false ∧ call.isServe = false := by
  unfold probeCourse
  rcases read : (board.silicon start).1 with panic | silicon
  · rw [Capabilities.notes_probe_of_panic board config read]
    exact ⟨[], rfl, nofun⟩
  cases native : silicon.native with
  | false =>
    rw [Capabilities.notes_probe_of_emulated board config read native]
    refine ⟨_, rfl, fun call member => ?_⟩
    rw [List.mem_singleton.mp member]
    exact ⟨rfl, rfl, rfl⟩
  | true =>
    obtain ⟨reply, clock, calls, reads⟩ :=
      Capabilities.calls_probe_of_native board config read native
    refine ⟨_, calls, fun call member => ?_⟩
    rcases List.mem_cons.mp member with rfl | later
    · exact ⟨rfl, rfl, rfl⟩
    · obtain ⟨hz, rfl⟩ := reads call later
      exact ⟨rfl, rfl, rfl⟩

/-- The probe does not call the cipher. -/
theorem countP_isEncrypt_probeCourse :
    (Note.calls (probeCourse board config start).notes).countP Call.isEncrypt = 0 := by
  obtain ⟨rest, probe, others⟩ := calls_probeCourse board config start
  rw [probe, List.countP_cons_of_neg Bool.false_ne_true]
  exact List.countP_eq_zero.mpr fun call member => by simp [(others call member).2.1]

/-- The probe does not enter the device-mode service. -/
theorem countP_isServe_probeCourse :
    (Note.calls (probeCourse board config start).notes).countP Call.isServe = 0 := by
  obtain ⟨rest, probe, others⟩ := calls_probeCourse board config start
  rw [probe, List.countP_cons_of_neg Bool.false_ne_true]
  exact List.countP_eq_zero.mpr fun call member => by simp [(others call member).2.2]

/-- A first run makes the calls of its probe and, if that is through, the calls behind it. -/
theorem calls_run (created : create config build start = .ok orchestrator) :
    Transcript.calls (run board surroundings orchestrator).notes =
      Note.calls (probeCourse board config start).notes ++
        match (probeCourse board config start).result with
        | .ok caps => callsAfterProbe board config surroundings start caps
        | .error _ => [] := by
  obtain rfl := eq_of_create created
  show Transcript.calls (conduct board config build surroundings ⟨.probing, .ofBoard start⟩).notes =
    _
  rcases probed : (probeCourse board config start).result with panic | caps
  · rw [calls_conduct_of_panic build probed, List.append_nil]
  · rw [calls_conduct build probed]

variable (created : create config build start = .ok orchestrator)

include created

/-- A first run asks the board what it is once, before anything else. -/
theorem identity_read_once : ∃ rest,
    Transcript.calls (run board surroundings orchestrator).notes =
        .silicon (board.silicon start).1 :: rest ∧
      ∀ call ∈ rest, call.isSilicon = false := by
  obtain ⟨clock, probe, others⟩ := calls_probeCourse board config start
  rw [calls_run created, probe]
  refine ⟨_, rfl, fun call member => ?_⟩
  rcases List.mem_append.mp member with early | late
  · exact (others call early).1
  · split at late
    · exact (gated_of_mem_callsAfterProbe late).1
    · cases late

variable (read : (board.silicon start).1 = .ok silicon)

include read

/-- A first run on an emulated board sees nothing of it but its identity and its clock. -/
theorem emulatedRun (emulated : silicon.native = false) :
    EmulatedRun board config build surroundings start (run board surroundings orchestrator) where
  calls := by
    have probe := Capabilities.notes_probe_of_emulated board config read emulated
    have unseen : ∀ caps, (probeCourse board config start).result = .ok caps →
        callsAfterProbe board config surroundings start caps = [] := by
      intro caps probed
      have blind : caps.isPhysical = false :=
        (Capabilities.probe_record board config read probed).1.trans emulated
      have no_service : caps.supportsDeviceMode = false := by
        rw [← Bool.not_eq_true, Capabilities.supportsDeviceMode_iff, blind]
        simp
      have battery : (firstBattery board config surroundings start caps).calls = [] := by
        apply List.eq_nil_iff_forall_not_mem.mpr
        intro call member
        exact Call.not_permittedBy_of_emulated blind (within_firstBattery.permitted call member)
      unfold callsAfterProbe servesDeviceMode
      rw [battery, no_service]
      rfl
    rw [calls_run created]
    unfold probeCourse at unseen ⊢
    rw [probe, read]
    split
    · next caps probed => rw [unseen caps probed]; rfl
    · rfl
  blind := by
    intro τ other elsewhere twin made same clock
    have alike := alike_conduct config read emulated same clock build surroundings
    obtain rfl := eq_of_create created
    obtain rfl := eq_of_create made
    refine ⟨alike.result.symm, alike.state.stage.symm, alike.notes.symm, ?_⟩
    exact congrArg (fun notes => EventLog.standard.publishAll (Transcript.events notes))
      alike.notes.symm

/-- Device mode is entered exactly on the families that have it, and after both phases. -/
theorem serveBegun_mem_calls_run_iff (native : silicon.native = true) {caps : Capabilities} :
    .serveBegun caps ∈ Transcript.calls (run board surroundings orchestrator).notes ↔
      (probeCourse board config start).result = .ok caps ∧
        (silicon.family = .imx6UL ∨ silicon.family = .imx6ULL) ∧
        (∃ units, (concurrentCourse board config surroundings start caps).result = .ok units) ∧
        (sequentialCourse board config surroundings start caps).result = .ok () := by
  have unprobed : .serveBegun caps ∉ Note.calls (probeCourse board config start).notes := by
    intro member
    have counted : 0 < (Note.calls (probeCourse board config start).notes).countP Call.isServe :=
      List.countP_pos_iff.mpr ⟨_, member, rfl⟩
    rw [countP_isServe_probeCourse] at counted
    exact Nat.lt_irrefl 0 counted
  rw [calls_run created, List.mem_append, or_iff_right unprobed]
  rcases probed : (probeCourse board config start).result with panic | record
  -- After a probe that broke off there is no call at all, and no record.
  · simp
  · obtain ⟨physical, family, -⟩ := Capabilities.probe_record board config read probed
    rw [serveBegun_mem_callsAfterProbe_iff]
    constructor
    · rintro ⟨rfl, serves⟩
      obtain ⟨supported, through⟩ := servesDeviceMode_iff.mp serves
      have families := (Capabilities.supportsDeviceMode_iff.mp supported).2
      rw [family] at families
      exact ⟨rfl, families, through⟩
    · rintro ⟨same, families, through⟩
      cases same
      rw [← family] at families
      have supported := Capabilities.supportsDeviceMode_iff.mpr
        ⟨physical.trans native, families⟩
      exact ⟨rfl, servesDeviceMode_iff.mpr ⟨supported, through⟩⟩

/-- A first run on hardware keeps to the gates of its capabilities. -/
theorem physicalRun (native : silicon.native = true) :
    PhysicalRun board config surroundings start silicon
      (Transcript.calls (run board surroundings orchestrator).notes) where
  clock := by
    obtain ⟨reply, clock, probe, reads⟩ :=
      Capabilities.calls_probe_of_native board config read native
    rw [calls_run created]
    unfold probeCourse
    rw [probe]
    refine ⟨reply, _, rfl, fun call member => ?_⟩
    rcases List.mem_append.mp member with early | late
    · obtain ⟨hz, rfl⟩ := reads call early
      rfl
    · split at late
      · exact (gated_of_mem_callsAfterProbe late).2.1
      · cases late
  parts := by
    intro caps probed
    rw [calls_run created, probed]
  cipher := by
    intro call member enciphers
    obtain ⟨rest, probe, others⟩ := calls_probeCourse board config start
    rw [calls_run created, probe] at member
    rcases List.mem_append.mp member with early | late
    · rcases List.mem_cons.mp early with rfl | later
      · cases enciphers
      · cases (others call later).2.1.symm.trans enciphers
    · split at late
      · next caps probed =>
        rw [← (Capabilities.probe_record board config read probed).2.1]
        exact (gated_of_mem_callsAfterProbe late).2.2 enciphers
      · cases late
  cipher_once := fun caps probed battery member => (within_of_mem_batteries member).cipher
  ciphers := by
    intro caps probed
    rw [calls_run created, probed, List.countP_append, countP_isEncrypt_probeCourse, Nat.zero_add]
    exact ciphers_callsAfterProbe
  service_once := by
    rw [calls_run created, List.countP_append, countP_isServe_probeCourse, Nat.zero_add]
    split
    · rw [countP_isServe_callsAfterProbe]
      split
      · exact Nat.le_refl 1
      · exact Nat.zero_le 1
    · exact Nat.zero_le 1
  service := fun _ => serveBegun_mem_calls_run_iff created read native

end

/-- The gates hold over the first run of a new orchestrator, whatever the board does.  The identity
is read once, and what the board would tell later makes no difference; the record of the probe is
made from this reading.  On emulated hardware the run sees nothing else of the board but its clock.
On the physical part the clock is requested first, the cipher is called at most once per battery and
only where there is one, and device mode is entered at most once, exactly on the families that have
it and after both phases have succeeded. -/
theorem gates_hold_over_first_run {config : Config} {build : Build} {start : σ}
    {orchestrator : Orchestrator σ} (created : create config build start = .ok orchestrator)
    (board : Board σ) (surroundings : Surroundings) :
    let course := run board surroundings orchestrator
    let identity := (board.silicon start).1
    (∃ rest, Transcript.calls course.notes = .silicon identity :: rest ∧
      ∀ call ∈ rest, call.isSilicon = false) ∧
    (∀ later : σ → Reply Silicon × σ, later start = board.silicon start →
      run { board with silicon := later } surroundings orchestrator = course) ∧
    (∀ silicon caps, identity = .ok silicon → (probeCourse board config start).result = .ok caps →
      caps.isPhysical = silicon.native ∧ caps.family = silicon.family ∧
        caps.model = silicon.model) ∧
    (∀ silicon, identity = .ok silicon → silicon.native = false →
      EmulatedRun board config build surroundings start course) ∧
    (∀ silicon, identity = .ok silicon → silicon.native = true →
      PhysicalRun board config surroundings start silicon (Transcript.calls course.notes)) := by
  intro course identity
  refine ⟨identity_read_once created, ?_, ?_, ?_, ?_⟩
  · intro later same
    obtain rfl := eq_of_create created
    have conducted := conduct_with_silicon board later config same build surroundings
    show Course.mk _ _ _ = Course.mk _ _ _
    rw [conducted]
  · intro silicon caps read probed
    exact Capabilities.probe_record board config read probed
  · intro silicon read emulated
    exact emulatedRun created read emulated
  · intro silicon read native
    exact physicalRun created read native

/-- The board has a cipher and asks for one battery in device mode. -/
theorem gates_hold_over_run_with_rerun :
    let config : Config := { allocation := { runs := 2 } }
    let script : Script :=
      { Script.reading [] 1 with silicon := ⟨"i.MX6ULL", .imx6ULL, 1, 2, true⟩ }
    let orchestrator : Orchestrator Script.Position :=
      ⟨config, ⟨"", "", "", ""⟩, .standard, ⟨.probing, .ofBoard script.start⟩⟩
    let calls := Transcript.calls (run script.board .quiet orchestrator).notes
    create config ⟨"", "", "", ""⟩ script.start = .ok orchestrator ∧
      PhysicalRun script.board config .quiet script.start script.silicon calls ∧
      calls.countP Call.isEncrypt = 2 ∧ calls.countP Call.isServe = 1 := by
  intro config script orchestrator calls
  have created : create config ⟨"", "", "", ""⟩ script.start = .ok orchestrator := rfl
  obtain ⟨-, -, -, -, physical⟩ := gates_hold_over_first_run created script.board .quiet
  exact ⟨created, physical script.silicon rfl rfl, by decide +kernel, by decide +kernel⟩

end Orchestrator

end BoardDiagnostics
