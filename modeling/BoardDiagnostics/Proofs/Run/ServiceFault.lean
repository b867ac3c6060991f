import BoardDiagnostics.Proofs.Fault
import BoardDiagnostics.Proofs.Gates.Run
import BoardDiagnostics.Proofs.Run.Repeat

/-!
# Faults of the device-mode service

If the device-mode service ends with a fault that is not fatal, the run fails with a fault of device
mode that gives the full text of the first as its reason.  As a full text tells its fault, nothing
is lost: two runs that end in this way fail alike only if their services ended alike.
-/

set_option autoImplicit false

namespace BoardDiagnostics

variable {σ : Type}

/-! ### The word about the end of the service -/

/-- The end of the service is nothing that a battery may note. -/
theorem Call.serveEnded_not_permittedBy (caps : Capabilities) (reply : Reply (Except Fault Unit)) :
    ¬ (serveEnded reply).PermittedBy caps := id

/-- The probe does not end the device-mode service. -/
theorem Capabilities.serveEnded_notMem_calls_probe (board : Board σ) (config : Config) (start : σ)
    (reply : Reply (Except Fault Unit)) :
    .serveEnded reply ∉ Note.calls (probe board config start).notes := by
  rcases read : (board.silicon start).1 with panic | silicon
  · rw [notes_probe_of_panic board config read]
    show .serveEnded reply ∉ [Call.silicon _]
    simp
  cases native : silicon.native with
  | false =>
    rw [notes_probe_of_emulated board config read native]
    show .serveEnded reply ∉ [Call.silicon _, Call.frequency _]
    simp
  | true =>
    obtain ⟨answer, clock, calls, reads⟩ := calls_probe_of_native board config read native
    rw [calls]
    intro member
    have later := (List.mem_cons.mp ((List.mem_cons.mp member).resolve_left nofun)).resolve_left
      nofun
    obtain ⟨hz, frequency⟩ := reads _ later
    cases frequency

/-- A session notes the word about its end once it has ended, and notes its own reply. -/
theorem serveEnded_mem_calls_follow_iff {caps : Capabilities} {diagnose : Nat → Diagnosis σ Unit}
    (keeps : ∀ number, Diagnosis.Keeps caps 1 (diagnose number)) (session : Session σ)
    (number : Nat) {strays : List (Task σ)} (gated : ∀ task ∈ strays, task.unit.Gated caps)
    {reply : Reply (Except Fault Unit)} :
    .serveEnded reply ∈ Transcript.calls (session.follow diagnose number strays).notes ↔
      (session.follow diagnose number strays).result = .ok reply := by
  induction session generalizing number strays with
  | ended answer state =>
    show .serveEnded reply ∈ [Call.serveEnded answer] ↔ Except.ok answer = .ok reply
    simp [eq_comm]
  | rerun state resume ih =>
    obtain ⟨after, within⟩ := keeps number ⟨state, strays⟩ gated
    have unsaid : .serveEnded reply ∉ Transcript.calls (diagnose number ⟨state, strays⟩).notes :=
      fun member => Call.serveEnded_not_permittedBy caps reply (within.permitted _ member)
    unfold Session.follow
    simp only [Transcript.calls_append, Transcript.calls_cons_call, List.mem_append,
      List.mem_cons, unsaid, false_or, reduceCtorEq]
    exact ih _ _ _ after

namespace Orchestrator

section

variable {board : Board σ} {config : Config} {surroundings : Surroundings} {start : σ}
  {caps : Capabilities} {reply : Reply (Except Fault Unit)}

/-- The service ends with a reply exactly if it was entered and came to that reply. -/
theorem serveEnded_mem_callsAfterProbe_iff :
    .serveEnded reply ∈ callsAfterProbe board config surroundings start caps ↔
      servesDeviceMode board config surroundings start caps = true ∧
        (serviceCourse board config surroundings start caps).result = .ok reply := by
  have unsaid : .serveEnded reply ∉ (firstBattery board config surroundings start caps).calls :=
    fun member =>
      Call.serveEnded_not_permittedBy caps reply (within_firstBattery.permitted _ member)
  unfold callsAfterProbe
  rw [List.mem_append, or_iff_right unsaid]
  split
  · next serves =>
    rw [and_iff_right serves, serviceCalls, List.mem_cons, or_iff_right nofun]
    exact serveEnded_mem_calls_follow_iff keeps_reruns _ 1 gated_sequentialCourse
  · next refused => simp [refused]

/-- A run notes this reply of its service exactly if it came to its service and got it. -/
theorem serveEnded_mem_calls_conduct_iff (build : Build) :
    .serveEnded reply ∈ Transcript.calls
        (conduct board config build surroundings ⟨.probing, .ofBoard start⟩).notes ↔
      ∃ caps, (probeCourse board config start).result = .ok caps ∧
        servesDeviceMode board config surroundings start caps = true ∧
        (serviceCourse board config surroundings start caps).result = .ok reply := by
  have unsaid : .serveEnded reply ∉ Note.calls (probeCourse board config start).notes :=
    Capabilities.serveEnded_notMem_calls_probe board config start reply
  rcases probed : (probeCourse board config start).result with panic | caps
  · rw [calls_conduct_of_panic build probed]
    simp [unsaid]
  · rw [calls_conduct build probed, List.mem_append, or_iff_right unsaid,
      serveEnded_mem_callsAfterProbe_iff]
    simp

/-- The reply of the service decides how its run ends. -/
theorem result_conduct_of_serveEnded (build : Build)
    (ended : .serveEnded reply ∈ Transcript.calls
      (conduct board config build surroundings ⟨.probing, .ofBoard start⟩).notes) :
    (conduct board config build surroundings ⟨.probing, .ofBoard start⟩).result =
      serviceEnd reply := by
  obtain ⟨caps, probed, serves, served⟩ := (serveEnded_mem_calls_conduct_iff build).mp ended
  obtain ⟨supported, ⟨units, released⟩, finished⟩ := servesDeviceMode_iff.mp serves
  have ends := came_ending_of_service supported served
  exact (conduct_of_ending build probed released finished ends).result_eq

end

/-! ### Runs one after another -/

/-- If the orchestrator stands at its first stage, then in a world without strays. -/
def Unstrayed (orchestrator : Orchestrator σ) : Prop :=
  orchestrator.stage = .probing → ∃ start, orchestrator.state = ⟨.probing, .ofBoard start⟩

section

variable {board : Board σ} {orchestrator : Orchestrator σ}

/-- A new orchestrator has no strays. -/
theorem unstrayed_of_create {config : Config} {build : Build} {start : σ}
    (created : create config build start = .ok orchestrator) : orchestrator.Unstrayed := by
  obtain rfl := eq_of_create created
  exact fun _ => ⟨start, rfl⟩

variable (unstrayed : orchestrator.Unstrayed) (surroundings : Surroundings)

include unstrayed

/-- A run that leaves an orchestrator at its first stage leaves no strays. -/
theorem unstrayed_run : (run board surroundings orchestrator).state.Unstrayed := by
  by_cases unrun : orchestrator.stage = .probing
  · obtain ⟨start, state⟩ := unstrayed unrun
    rw [run_of_unrun board unrun, state]
    intro stays
    rcases probed : (probeCourse board orchestrator.config start).result with panic | caps
    · exact ⟨_, (conduct_of_panic orchestrator.build probed).state_eq⟩
    · exact absurd stays (stage_conduct_of_probed orchestrator.build probed)
  · rw [run_of_ran board unrun]
    exact unstrayed

/-- A run in which the service ended has the result that the reply decides. -/
theorem result_run_of_serveEnded {reply : Reply (Except Fault Unit)}
    (ended : .serveEnded reply ∈
      Transcript.calls (run board surroundings orchestrator).notes) :
    (run board surroundings orchestrator).result = serviceEnd reply := by
  by_cases unrun : orchestrator.stage = .probing
  · obtain ⟨start, state⟩ := unstrayed unrun
    rw [run_of_unrun board unrun, state] at ended ⊢
    exact result_conduct_of_serveEnded orchestrator.build ended
  -- A run that is refused notes nothing.
  · rw [run_of_ran board unrun] at ended
    cases ended

omit surroundings in
/-- Of however many runs, each ends as its own service did. -/
theorem result_of_mem_runs (calls : List Surroundings) {reply : Reply (Except Fault Unit)} :
    ∀ course ∈ runs board calls orchestrator,
      .serveEnded reply ∈ Transcript.calls course.notes → course.result = serviceEnd reply := by
  induction calls generalizing orchestrator with
  | nil => exact fun _ member => absurd member List.not_mem_nil
  | cons surroundings later ih =>
    intro course member ended
    rcases List.mem_cons.mp member with rfl | more
    · exact result_run_of_serveEnded unstrayed surroundings ended
    · exact ih (unstrayed_run unstrayed surroundings) course more ended

end

/-- In one of the runs of a new orchestrator, on whatever board, the device-mode service ended with
this fault and the run with this result. -/
inductive ServiceFailed : Fault → Except Fault Terminal → Prop where
  | inRun {σ : Type} {board : Board σ} {config : Config} {build : Build} {start : σ}
      {orchestrator : Orchestrator σ} {calls : List Surroundings}
      {course : Course Entry (Orchestrator σ) Fault Terminal} {fault : Fault}
      (created : create config build start = .ok orchestrator)
      (ran : course ∈ runs board calls orchestrator)
      (ended : .serveEnded (.ok (.error fault)) ∈ Transcript.calls course.notes) :
      ServiceFailed fault course.result

/-- A run whose service failed has the result that the fault decides. -/
theorem ServiceFailed.result_eq {fault : Fault} {result : Except Fault Terminal}
    (failed : ServiceFailed fault result) : result = serviceEnd (.ok (.error fault)) := by
  cases failed with
  | inRun created ran ended => exact result_of_mem_runs (unstrayed_of_create created) _ _ ran ended

/-- A first run that enters the service and is replied a fault is such a run. -/
theorem serviceFailed_of_served {board : Board σ} {config : Config} {build : Build}
    {surroundings : Surroundings} {start : σ} {orchestrator : Orchestrator σ} {caps : Capabilities}
    {fault : Fault} (created : create config build start = .ok orchestrator)
    (probed : (probeCourse board config start).result = .ok caps)
    (serves : servesDeviceMode board config surroundings start caps = true)
    (served : (serviceCourse board config surroundings start caps).result =
      .ok (.ok (.error fault))) :
    ServiceFailed fault (serviceEnd (.ok (.error fault))) := by
  have ran : run board surroundings orchestrator ∈ runs board [surroundings] orchestrator :=
    List.mem_cons_self
  have ended : .serveEnded (.ok (.error fault)) ∈
      Transcript.calls (run board surroundings orchestrator).notes := by
    obtain rfl := eq_of_create created
    rw [run_of_unrun board rfl]
    exact (serveEnded_mem_calls_conduct_iff build).mpr ⟨caps, probed, serves, served⟩
  have failed := ServiceFailed.inRun created ran ended
  rw [← failed.result_eq]
  exact failed

/-- Every fault can be the end of a service: a board may act well until then. -/
theorem serviceFailed (fault : Fault) : ServiceFailed fault (serviceEnd (.ok (.error fault))) := by
  let sound : Script := .reading [] 0
  let script : Script := { sound with serviceEnd := .ok (.error fault) }
  let caps : Capabilities := ⟨.physical, .imx6UL, 528000000, "i.MX6UL"⟩
  have created : create .standard ⟨"", "", "", ""⟩ script.start =
      .ok ⟨.standard, ⟨"", "", "", ""⟩, .standard, ⟨.probing, .ofBoard script.start⟩⟩ := rfl
  -- Up to its service the board acts as it does under the script without a fault.
  have probed : (probeCourse script.board .standard script.start).result = .ok caps := by
    show (probeCourse sound.board .standard sound.start).result = .ok caps
    decide +kernel
  have released : (concurrentCourse script.board .standard .quiet script.start caps).result =
      .ok 6 := by
    show (concurrentCourse sound.board .standard .quiet sound.start caps).result = .ok 6
    decide +kernel
  have finished : (sequentialCourse script.board .standard .quiet script.start caps).result =
      .ok () := by
    show (sequentialCourse sound.board .standard .quiet sound.start caps).result = .ok ()
    decide +kernel
  have serves : servesDeviceMode script.board .standard .quiet script.start caps = true :=
    servesDeviceMode_iff.mpr ⟨rfl, ⟨6, released⟩, finished⟩
  have served : (serviceCourse script.board .standard .quiet script.start caps).result =
      .ok (.ok (.error fault)) := rfl
  exact serviceFailed_of_served created probed serves served

/-- A full text tells its fault, and the record in it does so whatever stands behind the record.
So a run whose service ended with a fault that is not fatal fails with the whole of this fault, and
two such runs fail alike exactly if their services ended with the same fault. -/
theorem wrapped_faults_stay_apart :
    Function.Injective Fault.fullText ∧
    (∀ (fault other : Fault) (rest more : String),
      fault.record ++ rest = other.record ++ more → fault = other ∧ rest = more) ∧
    (∀ fault result, fault.isFatal = false →
      (ServiceFailed fault result ↔ result = .error (.deviceMode fault.fullText))) ∧
    (∀ fault other result later, fault.isFatal = false → other.isFatal = false →
      ServiceFailed fault result → ServiceFailed other later →
      (result = later ↔ fault = other)) := by
  have wrapped : ∀ fault : Fault, fault.isFatal = false →
      serviceEnd (.ok (.error fault)) = .error (.deviceMode fault.fullText) := by
    intro fault harmless
    rw [serviceEnd, harmless, if_neg Bool.false_ne_true]
  refine ⟨Fault.fullText_injective, fun _ _ _ _ => Fault.record_append_inj, ?_, ?_⟩
  · intro fault result harmless
    rw [← wrapped fault harmless]
    constructor
    · exact ServiceFailed.result_eq
    · rintro rfl
      exact serviceFailed fault
  · intro fault other result later harmless other_harmless failed other_failed
    rw [failed.result_eq, other_failed.result_eq, wrapped fault harmless,
      wrapped other other_harmless]
    constructor
    · intro same
      exact Fault.fullText_injective (Fault.deviceMode.inj (Except.error.inj same))
    · rintro rfl
      rfl

/-- The messages of these two faults are the same, though the faults are of different kinds; the
runs that they end stay apart. -/
theorem faults_of_one_message_stay_apart :
    let fault : Fault := .cipher "key not supported on this board"
    let other : Fault := .unsupported "hardware cipher failed: key"
    fault.message = other.message ∧ fault.isFatal = false ∧ other.isFatal = false ∧
      ∃ result later, ServiceFailed fault result ∧ ServiceFailed other later ∧
        result ≠ later := by
  intro fault other
  have failed := serviceFailed fault
  have other_failed := serviceFailed other
  have apart := wrapped_faults_stay_apart.2.2.2 fault other _ _ rfl rfl failed other_failed
  have different : fault ≠ other := by decide
  exact ⟨by decide, rfl, rfl, _, _, failed, other_failed, fun same => different (apart.mp same)⟩

end Orchestrator

end BoardDiagnostics
