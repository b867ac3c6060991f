import BoardDiagnostics.Orchestrator
import BoardDiagnostics.Proofs.Battery.Sequential

/-!
# The device-mode service

A session is followed by induction on the session: whatever the board makes of the result of a
battery, it goes on with a session again, and the batteries that it asks for are numbered on.
-/

set_option autoImplicit false

namespace BoardDiagnostics

variable {σ : Type}

/-- The results that a session gets for the batteries that it asks for, in order. -/
def Session.answers (diagnose : Nat → Diagnosis σ Unit) :
    Session σ → Nat → List (Task σ) → List (Except Fault Unit)
  | .ended _ _, _, _ => []
  | .rerun board resume, number, strays =>
    let course := diagnose number ⟨board, strays⟩
    course.result :: answers diagnose (resume course.result course.state.board) (number + 1)
      course.state.strays

/-- What batteries with numbers from here on publish, by their results. -/
inductive RerunsTrace (caps : Capabilities) (config : Config) (conditions : Nat → Conditions) :
    Nat → List (Except Fault Unit) → List Event → Prop where
  | done {number : Nat} : RerunsTrace caps config conditions number [] []
  | battery {number : Nat} {result : Except Fault Unit} {results : List (Except Fault Unit)}
      {first rest : List Event}
      (ran : BatteryTrace caps config .rerun (conditions number) result first)
      (more : RerunsTrace caps config conditions (number + 1) results rest) :
      RerunsTrace caps config conditions number (result :: results) (first ++ rest)

section

variable (caps : Capabilities) (config : Config) (board : Board σ)

/-- A rerun publishes what a battery does. -/
theorem rerunBattery_trace (conditions : Conditions) (world : World σ) :
    BatteryTrace caps config .rerun conditions
      (rerunBattery caps config board conditions world).result
      (Transcript.events (rerunBattery caps config board conditions world).notes) := by
  unfold rerunBattery
  rw [Diagnosis.say_bind_apply]
  exact runBattery_trace caps config board .rerun conditions world

variable (conditions : Nat → Conditions)

/-- A session publishes what its reruns do, in their order, each with its result. -/
theorem follow_trace (session : Session σ) (number : Nat) (strays : List (Task σ)) :
    RerunsTrace caps config conditions number
      (session.answers (fun n => rerunBattery caps config board (conditions n)) number strays)
      (Transcript.events (session.follow
        (fun n => rerunBattery caps config board (conditions n)) number strays).notes) := by
  induction session generalizing number strays with
  | ended reply state => exact .done
  | rerun state resume ih =>
    have ran := rerunBattery_trace caps config board (conditions number) ⟨state, strays⟩
    unfold Session.answers Session.follow
    rw [Transcript.events_append, Transcript.events_cons_call]
    exact .battery ran (ih _ _ _ _)

/-- A session ends with a reply, whatever the batteries came to. -/
theorem exists_reply_of_follow (diagnose : Nat → Diagnosis σ Unit) (session : Session σ)
    (number : Nat) (strays : List (Task σ)) :
    ∃ reply, (session.follow diagnose number strays).result = .ok reply := by
  induction session generalizing number strays with
  | ended reply state => exact ⟨reply, rfl⟩
  | rerun state resume ih => exact ih _ _ _ _

end

end BoardDiagnostics
