import BoardDiagnostics.Text.Quoted

/-!
# Panics

Work that breaks off instead of returning leaves a panic behind.  Most panics carry a text;
one that carries anything else can only be reported as unknown.  Work that is refused memory it
cannot do without leaves nothing behind: its whole process is aborted.
-/

set_option autoImplicit false

namespace BoardDiagnostics

/-- What broken-off work left behind. -/
inductive Panic where
  /-- A panic that says why. -/
  | text (message : String)
  /-- A panic whose payload is not a text. -/
  | other
  deriving DecidableEq, Repr

namespace Panic

/-- The reason that an error gives for a panic. -/
def message : Panic → String
  | text m => m
  | other => "unknown panic payload"

/-- How the task that was waited for reports the panic that ended it. -/
def taskReport (task : Nat) : Panic → String
  | text m => "task " ++ toString task ++ " panicked with message " ++ Text.quoted m
  | other => "task " ++ toString task ++ " panicked"

end Panic

/-- The result of work that may break off. -/
abbrev Reply (α : Type) := Except Panic α

/-- How work comes to an end without returning. -/
inductive Breakoff where
  /-- It panics, which whoever waits for it is told. -/
  | panic (panic : Panic)
  /-- Its process is aborted, and nobody is left who could be told. -/
  | abort
  deriving DecidableEq, Repr

/-- The ending of work that may take its process with it. -/
abbrev Ending (α : Type) := Except Breakoff α

namespace Ending

variable {α : Type}

/-- The ending of work that has a result. -/
def ofReply : Reply α → Ending α
  | .ok value => .ok value
  | .error panic => .error (.panic panic)

/-- The result of work whose process is still there. -/
def reply : (ending : Ending α) → ending ≠ .error .abort → Reply α
  | .ok value, _ => .ok value
  | .error (.panic panic), _ => .error panic
  | .error .abort, alive => absurd rfl alive

/-- Nothing is lost by reading the result of work whose process is still there. -/
@[simp]
theorem ofReply_reply (ending : Ending α) (alive : ending ≠ .error .abort) :
    ofReply (reply ending alive) = ending := by
  rcases ending with (panic | ⟨⟩) | value
  · rfl
  · exact absurd rfl alive
  · rfl

end Ending

end BoardDiagnostics
