/-!
# Results of checks

A check passes or fails with a chain of reasons, the outermost first, each the context of the
next.
-/

set_option autoImplicit false

namespace BoardDiagnostics

/-- The reasons of a failure, outermost first. -/
structure Reasons where
  outermost : String
  inner : List String
  deriving DecidableEq, Repr

namespace Reasons

/-- A single reason. -/
def of (reason : String) : Reasons := ⟨reason, []⟩

/-- The same failure in a wider context. -/
def within (context : String) (reasons : Reasons) : Reasons :=
  ⟨context, reasons.outermost :: reasons.inner⟩

/-- All reasons on one line. -/
def text (reasons : Reasons) : String :=
  ": ".intercalate (reasons.outermost :: reasons.inner)

end Reasons

/-- The result of a check. -/
abbrev CheckResult := Except Reasons Unit

/-- Put the failures of a piece of work into a context. -/
def inContext {α : Type} (context : String) (result : Except Reasons α) : Except Reasons α :=
  result.mapError (Reasons.within context)

end BoardDiagnostics
