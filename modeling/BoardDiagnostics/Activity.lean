/-!
# Activities

An activity reads and changes a state, takes notes on the way, and ends in a result or a
failure.  What was noted before a failure stays noted, and the state stays as the failure left
it: there is no undoing on a board.
-/

set_option autoImplicit false

namespace BoardDiagnostics

/-- How an activity went. -/
structure Course (ω σ ε α : Type) where
  /-- The result or the failure. -/
  result : Except ε α
  /-- The state it left. -/
  state : σ
  /-- What was noted, in order. -/
  notes : List ω

/-- An activity over a state of type `σ` that takes notes of type `ω`. -/
def Activity (ω σ ε α : Type) : Type := σ → Course ω σ ε α

namespace Activity

variable {ω ω' σ τ ε ε' α β : Type}

/-- The activity that ends at once. -/
protected def pure (a : α) : Activity ω σ ε α := fun s => ⟨.ok a, s, []⟩

/-- One activity after another; a failure of the first is a failure of both. -/
protected def bind (first : Activity ω σ ε α) (next : α → Activity ω σ ε β) :
    Activity ω σ ε β := fun s =>
  let course := first s
  match course.result with
  | .ok a =>
    let rest := next a course.state
    ⟨rest.result, rest.state, course.notes ++ rest.notes⟩
  | .error e => ⟨.error e, course.state, course.notes⟩

instance : Monad (Activity ω σ ε) where
  pure := Activity.pure
  bind := Activity.bind

/-- Fail. -/
def fail (e : ε) : Activity ω σ ε α := fun s => ⟨.error e, s, []⟩

/-- Take a note. -/
def note (n : ω) : Activity ω σ ε Unit := fun s => ⟨.ok (), s, [n]⟩

/-- Take some notes. -/
def noteAll (ns : List ω) : Activity ω σ ε Unit := fun s => ⟨.ok (), s, ns⟩

/-- Turn a result into the end of an activity. -/
def ofExcept (result : Except ε α) : Activity ω σ ε α := fun s => ⟨result, s, []⟩

/-- Carry on after a failure, with the failure as the result. -/
def attempt (activity : Activity ω σ ε α) : Activity ω σ ε' (Except ε α) := fun s =>
  let course := activity s
  ⟨.ok course.result, course.state, course.notes⟩

/-- Put other notes in place of those of an activity. -/
def mapNotes (f : ω → ω') (activity : Activity ω σ ε α) : Activity ω' σ ε α := fun s =>
  let course := activity s
  ⟨course.result, course.state, course.notes.map f⟩

/-- Run an activity on a part of a larger state. -/
def within (get : τ → σ) (put : σ → τ → τ) (activity : Activity ω σ ε α) :
    Activity ω τ ε α := fun t =>
  let course := activity (get t)
  ⟨course.result, put course.state t, course.notes⟩

end Activity

end BoardDiagnostics
