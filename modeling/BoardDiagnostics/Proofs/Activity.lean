import BoardDiagnostics.Activity

/-!
# Activities in sequence

A sequence of two activities goes one of two ways: the first fails and that is the end of it, or
the first ends in a result and the second goes on where the first left off.
-/

set_option autoImplicit false

namespace BoardDiagnostics.Activity

variable {ω σ ε α β : Type}

/-- Noting leaves the state alone and notes what it is given. -/
@[simp] theorem noteAll_apply (ns : List ω) (s : σ) :
    (noteAll ns : Activity ω σ ε Unit) s = ⟨.ok (), s, ns⟩ := rfl

/-- What follows a note runs in the same state, and its notes come behind. -/
@[simp] theorem noteAll_bind_apply (ns : List ω) (next : Unit → Activity ω σ ε β) (s : σ) :
    (noteAll ns >>= next) s =
      ⟨(next () s).result, (next () s).state, ns ++ (next () s).notes⟩ := rfl

/-- A sequence goes on in the state that its first part leaves, if that has a result. -/
theorem bind_apply (first : Activity ω σ ε α) (next : α → Activity ω σ ε β) (s : σ) :
    (first >>= next) s =
      match (first s).result with
      | .ok a =>
        ⟨(next a (first s).state).result, (next a (first s).state).state,
          (first s).notes ++ (next a (first s).state).notes⟩
      | .error e => ⟨.error e, (first s).state, (first s).notes⟩ := rfl

/-- A first part with a result hands it on, with its state, and its notes stay in front. -/
theorem bind_of_ok {first : Activity ω σ ε α} {a : α} {s : σ} (ends : (first s).result = .ok a)
    (next : α → Activity ω σ ε β) :
    (first >>= next) s =
      ⟨(next a (first s).state).result, (next a (first s).state).state,
        (first s).notes ++ (next a (first s).state).notes⟩ := by
  rw [bind_apply, ends]

/-- A first part that fails is all there is of a sequence. -/
theorem bind_of_error {first : Activity ω σ ε α} {e : ε} {s : σ}
    (fails : (first s).result = .error e) (next : α → Activity ω σ ε β) :
    (first >>= next) s = ⟨.error e, (first s).state, (first s).notes⟩ := by
  rw [bind_apply, fails]

/-- Sequences whose parts go alike from this state go alike. -/
theorem bind_congr {first other : Activity ω σ ε α} {next follow : α → Activity ω σ ε β} {s : σ}
    (same : first s = other s) (after : ∀ a, next a (first s).state = follow a (first s).state) :
    (first >>= next) s = (other >>= follow) s := by
  rw [bind_apply, bind_apply, ← same]
  rcases (first s).result with e | a
  · rfl
  · simp only [after a]

end BoardDiagnostics.Activity
