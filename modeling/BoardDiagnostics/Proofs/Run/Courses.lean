import BoardDiagnostics.Board.Scripted
import BoardDiagnostics.Proofs.Run.Service

/-!
# The courses of a run

A run is a sequence of steps, each of which goes on in the world that the one before it left: the
probe, the concurrent phase, the sequential phase and the device-mode service.  Here are their
courses, and what the run comes to as one of them fails or all go well.
-/

set_option autoImplicit false

namespace BoardDiagnostics

variable {σ α β : Type}

/-- A part of a run came to this result, left this state and published these events. -/
structure Came (course : Course Entry (RunState σ) Fault α) (result : Except Fault α)
    (state : RunState σ) (events : List Event) : Prop where
  result_eq : course.result = result
  state_eq : course.state = state
  events_eq : Transcript.events course.notes = events

namespace Came

variable {first : Conduct σ α} {next : α → Conduct σ β} {start after : RunState σ}
  {events : List Event}

/-- A part that came to a result is followed by the next one, with its events behind. -/
theorem bind {a : α} {result : Except Fault β} {last : RunState σ} {more : List Event}
    (came : Came (first start) (.ok a) after events)
    (rest : Came (next a after) result last more) :
    Came ((first >>= next) start) result last (events ++ more) := by
  rw [Activity.bind_of_ok came.result_eq, came.state_eq]
  refine ⟨rest.result_eq, rest.state_eq, ?_⟩
  rw [Transcript.events_append, came.events_eq, rest.events_eq]

/-- A part that failed is the last one. -/
theorem bind_error {fault : Fault} (came : Came (first start) (.error fault) after events)
    (next : α → Conduct σ β) : Came ((first >>= next) start) (.error fault) after events := by
  rw [Activity.bind_of_error came.result_eq]
  exact ⟨rfl, came.state_eq, came.events_eq⟩

/-- Publishing comes to an end with that event. -/
theorem publish (event : Event) (state : RunState σ) :
    Came (Conduct.publish event state) (.ok ()) state [event] := ⟨rfl, rfl, rfl⟩

/-- Printing comes to an end without an event. -/
theorem say (line : Line) (state : RunState σ) :
    Came (Conduct.say line state) (.ok ()) state [] := ⟨rfl, rfl, rfl⟩

/-- Entering a stage publishes it and leaves the world alone. -/
theorem enter (next stage : Stage) (world : World σ) :
    Came (Conduct.enter next ⟨stage, world⟩) (.ok ()) ⟨next, world⟩ [.stageChanged next] :=
  ⟨rfl, rfl, rfl⟩

/-- A diagnosis comes to its own result and leaves the stage alone. -/
theorem inWorld {diagnosis : Diagnosis σ α} {result : Except Fault α} {world : World σ}
    (went : (diagnosis world).result = result) (stage : Stage) :
    Came (Conduct.inWorld diagnosis ⟨stage, world⟩) result ⟨stage, (diagnosis world).state⟩
      (Transcript.events (diagnosis world).notes) := ⟨went, rfl, rfl⟩

end Came

namespace Orchestrator

section

variable (board : Board σ) (config : Config) (surroundings : Surroundings) (start : σ)

/-- The course of the probe. -/
def probeCourse : Course Note σ Panic Capabilities := Capabilities.probe board config start

variable (caps : Capabilities)

/-- The course of the concurrent phase, if the probe found these capabilities. -/
def concurrentCourse : Course Entry (World σ) Fault Nat :=
  runRegistered caps board (surroundings.battery 0)
    (.ofBoard (probeCourse board config start).state)

/-- The course of the sequential phase after that. -/
def sequentialCourse : Course Entry (World σ) Fault Unit :=
  runSequential caps config board .startup (surroundings.battery 0)
    (concurrentCourse board config surroundings start caps).state

/-- The session of the device-mode service after that. -/
def session : Session σ :=
  board.serve caps (sequentialCourse board config surroundings start caps).state.board

/-- The last part of a run, once both phases are through. -/
def ending : Conduct σ Terminal :=
  if caps.supportsDeviceMode then do
    Conduct.enter .deviceModeService
    enterDeviceMode board config surroundings caps
  else finish surroundings

/-- What is left of a run once its probe has returned and the next stage is entered. -/
def remainder : Conduct σ Terminal := do
  let _ ← Conduct.inWorld (runRegistered caps board (surroundings.battery 0))
  Conduct.enter .sequentialPhase
  Conduct.inWorld (runSequential caps config board .startup (surroundings.battery 0))
  ending board config surroundings caps

/-- The course of the device-mode service. -/
def serviceCourse : Course Entry (World σ) Fault (Reply (Except Fault Unit)) :=
  (session board config surroundings start caps).follow
    (fun number => rerunBattery caps config board (surroundings.battery number)) 1
    (sequentialCourse board config surroundings start caps).state.strays

/-- The device-mode service always comes to a reply of the board. -/
theorem serviceCourse_result :
    ∃ reply, (serviceCourse board config surroundings start caps).result = .ok reply :=
  exists_reply_of_follow _ _ _ _

/-- The results of the batteries that the service asks for. -/
def serviceAnswers : List (Except Fault Unit) :=
  (session board config surroundings start caps).answers
    (fun number => rerunBattery caps config board (surroundings.battery number)) 1
    (sequentialCourse board config surroundings start caps).state.strays

end

section

variable {board : Board σ} {config : Config} {surroundings : Surroundings} {start : σ}

/-- Without device mode, a run becomes idle and says goodbye. -/
theorem came_ending_of_no_service (board : Board σ) (config : Config) (surroundings : Surroundings)
    {caps : Capabilities} (no_service : caps.supportsDeviceMode = false) (world : World σ) :
    Came (ending board config surroundings caps ⟨.sequentialPhase, world⟩)
      (.ok (.complete surroundings.elapsed)) ⟨.idle, world⟩
      [.stageChanged .idle, .goodbye surroundings.elapsed] := by
  unfold ending
  rw [no_service]
  exact ⟨rfl, rfl, rfl⟩

/-- With device mode, a run enters the service and ends as the board replies. -/
theorem came_ending_of_service {caps : Capabilities} (entered : caps.supportsDeviceMode = true)
    {reply : Reply (Except Fault Unit)}
    (served : (serviceCourse board config surroundings start caps).result = .ok reply) :
    Came (ending board config surroundings caps
        ⟨.sequentialPhase, (sequentialCourse board config surroundings start caps).state⟩)
      (serviceEnd reply)
      ⟨.deviceModeService, (serviceCourse board config surroundings start caps).state⟩
      ([.stageChanged .deviceModeService, .deviceModeEntered] ++
        Transcript.events (serviceCourse board config surroundings start caps).notes) := by
  have service : Came (Conduct.inWorld (serveDeviceMode caps board fun number =>
      rerunBattery caps config board (surroundings.battery number)) ⟨.deviceModeService, _⟩)
      (.ok reply) ⟨.deviceModeService, (serviceCourse board config surroundings start caps).state⟩
      (Transcript.events (serviceCourse board config surroundings start caps).notes) :=
    ⟨served, rfl, rfl⟩
  have ends : Came (Activity.ofExcept (serviceEnd reply)
      ⟨.deviceModeService, (serviceCourse board config surroundings start caps).state⟩)
      (serviceEnd reply) _ [] := ⟨rfl, rfl, rfl⟩
  unfold ending
  rw [entered, ← List.append_nil (Transcript.events _)]
  exact (Came.enter _ _ _).bind ((Came.say _ _).bind ((Came.publish _ _).bind
    (service.bind ends)))

/-- The probe of a run comes to the reply of the probe, and publishes nothing. -/
theorem came_probeBoard {reply : Reply Capabilities} (task : Nat)
    (probed : (probeCourse board config start).result = reply) :
    Came (probeBoard board config task ⟨.probing, .ofBoard start⟩)
      (reply.mapError (probeFault task))
      ⟨.probing, .ofBoard (probeCourse board config start).state⟩ [] := by
  have ends : (Diagnosis.onBoard (Capabilities.probe board config) (.ofBoard start)).result =
      .ok reply := congrArg Except.ok probed
  have silent : Transcript.events
      (Diagnosis.onBoard (Capabilities.probe board config) (.ofBoard start)).notes = [] :=
    Transcript.events_map_note _
  have asked := Came.inWorld ends .probing
  rw [silent] at asked
  unfold probeBoard
  cases reply with
  | error panic => exact asked.bind ⟨rfl, rfl, rfl⟩
  | ok caps => exact asked.bind ⟨rfl, rfl, rfl⟩

variable (build : Build)

/-- A run whose probe panics ends there, and stays at its first stage. -/
theorem conduct_of_panic {panic : Panic}
    (broke : (probeCourse board config start).result = .error panic) :
    Came (conduct board config build surroundings ⟨.probing, .ofBoard start⟩)
      (.error (probeFault surroundings.probeTask panic))
      ⟨.probing, .ofBoard (probeCourse board config start).state⟩ [.stageChanged .probing] := by
  have probed := came_probeBoard surroundings.probeTask broke
  exact (Came.publish _ _).bind (probed.bind_error _)

variable {caps : Capabilities} (probed : (probeCourse board config start).result = .ok caps)

include probed

/-- A run whose probe is through goes on as its remainder does. -/
theorem conduct_of_remainder {result : Except Fault Terminal} {state : RunState σ}
    {events : List Event}
    (came : Came (remainder board config surroundings caps
      ⟨.concurrentPhase, .ofBoard (probeCourse board config start).state⟩) result state events) :
    Came (conduct board config build surroundings ⟨.probing, .ofBoard start⟩) result state
      ([.stageChanged .probing, .stageChanged .concurrentPhase] ++ events) := by
  have probed := came_probeBoard surroundings.probeTask probed
  exact (Came.publish _ _).bind (probed.bind ((Came.say _ _).bind ((Came.enter _ _ _).bind came)))

/-- A run whose concurrent phase fails ends there. -/
theorem conduct_of_concurrent_error {fault : Fault}
    (aborted : (concurrentCourse board config surroundings start caps).result = .error fault) :
    Came (conduct board config build surroundings ⟨.probing, .ofBoard start⟩) (.error fault)
      ⟨.concurrentPhase, (concurrentCourse board config surroundings start caps).state⟩
      ([.stageChanged .probing, .stageChanged .concurrentPhase] ++
        Transcript.events (concurrentCourse board config surroundings start caps).notes) := by
  have units := Came.inWorld aborted .concurrentPhase
  exact conduct_of_remainder build probed (units.bind_error _)

variable {units : Nat}
  (released : (concurrentCourse board config surroundings start caps).result = .ok units)

include released

/-- A run whose sequential phase fails ends there. -/
theorem conduct_of_sequential_error {fault : Fault}
    (broken : (sequentialCourse board config surroundings start caps).result = .error fault) :
    Came (conduct board config build surroundings ⟨.probing, .ofBoard start⟩) (.error fault)
      ⟨.sequentialPhase, (sequentialCourse board config surroundings start caps).state⟩
      ([.stageChanged .probing, .stageChanged .concurrentPhase] ++
        (Transcript.events (concurrentCourse board config surroundings start caps).notes ++
          .stageChanged .sequentialPhase ::
            Transcript.events (sequentialCourse board config surroundings start caps).notes)) := by
  have units := Came.inWorld released .concurrentPhase
  have steps := Came.inWorld broken .sequentialPhase
  exact conduct_of_remainder build probed
    (units.bind ((Came.enter _ _ _).bind (steps.bind_error _)))

variable (finished : (sequentialCourse board config surroundings start caps).result = .ok ())

include finished

/-- A run that has come through both phases comes to what its last part comes to. -/
theorem conduct_of_ending {result : Except Fault Terminal} {state : RunState σ}
    {events : List Event}
    (ends : Came (ending board config surroundings caps
      ⟨.sequentialPhase, (sequentialCourse board config surroundings start caps).state⟩)
      result state events) :
    Came (conduct board config build surroundings ⟨.probing, .ofBoard start⟩) result state
      ([.stageChanged .probing, .stageChanged .concurrentPhase] ++
        ((Transcript.events (concurrentCourse board config surroundings start caps).notes ++
          .stageChanged .sequentialPhase ::
            Transcript.events (sequentialCourse board config surroundings start caps).notes) ++
          events)) := by
  have units := Came.inWorld released .concurrentPhase
  have steps := Came.inWorld finished .sequentialPhase
  rw [List.append_assoc (Transcript.events _), List.cons_append]
  exact conduct_of_remainder build probed (units.bind ((Came.enter _ _ _).bind (steps.bind ends)))

end

/-! ### The first run -/

section

variable {board : Board σ} {config : Config} {build : Build} {surroundings : Surroundings}
  {start : σ} {orchestrator : Orchestrator σ}

/-- A new orchestrator stands at its first stage, in a world without strays. -/
theorem eq_of_create (created : create config build start = .ok orchestrator) :
    orchestrator = ⟨config, build, .standard, ⟨.probing, .ofBoard start⟩⟩ := by
  unfold create at created
  split at created
  · cases created
  · exact (Except.ok.inj created).symm

/-- The first run of a new orchestrator goes through all its steps. -/
theorem run_of_create (created : create config build start = .ok orchestrator)
    {result : Except Fault Terminal} {state : RunState σ} {events : List Event}
    (came : Came (conduct board config build surroundings ⟨.probing, .ofBoard start⟩) result state
      events) :
    (run board surroundings orchestrator).result = result ∧
      (run board surroundings orchestrator).state.stage = state.stage ∧
      Transcript.events (run board surroundings orchestrator).notes = events := by
  obtain rfl := eq_of_create created
  exact ⟨came.result_eq, congrArg RunState.stage came.state_eq, came.events_eq⟩

end

end Orchestrator

/-! ### Runs to look at -/

/-- Conditions under which the checks of the host pass, memory is granted, the units finish in
launch order and no time passes. -/
def Conditions.quiet : Conditions where
  hostChecks _ := .ended [] (.ok ())
  schedule := []
  pauses _ := []
  entropy := .ofList []
  memory := .addressed 48
  phaseTimes := ⟨fun _ => .zero, .zero⟩
  runTime _ := .zero
  stressTime := .zero
  mediaTime _ := .zero

/-- Surroundings with such conditions for every battery. -/
def Surroundings.quiet : Surroundings := ⟨fun _ => .quiet, 0, .zero⟩

/-- A board with device mode that refuses to change its clock, acts like this when it is to read
storage media, and asks for so many batteries, whatever they come to. -/
def Script.reading (mediaActions : List ScriptedAction) (reruns : Nat) : Script where
  silicon := ⟨"i.MX6UL", .imx6UL, 1, 2, true⟩
  frequencyHz := 528000000
  clock := .acts (.ok (.error (.unsupported "clock control")))
  siliconActions := []
  mediaActions := mediaActions
  cipherActions := []
  ciphertext := []
  reruns := reruns
  ignoresFailedRerun := true
  serviceEnd := .ok (.ok ())

end BoardDiagnostics
