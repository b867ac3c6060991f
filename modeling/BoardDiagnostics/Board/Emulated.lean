import BoardDiagnostics.Board.Basic

/-!
# The emulated board

The board that stands in when there is no physical part.  It has a fixed identity and clock and
refuses everything that takes hardware.
-/

set_option autoImplicit false

namespace BoardDiagnostics

/-- What is fixed about an emulated board. -/
structure Emulation where
  family : Family := .imx6Q
  frequencyHz : Nat := 792000000
  deriving DecidableEq, Repr

namespace Emulation

/-- The refusal of a facility that takes hardware. -/
def refusal (feature : String) : Fault :=
  .unsupported (feature ++ " (emulated board)")

/-- The identity of an emulated board. -/
def silicon (emulation : Emulation) : Silicon :=
  ⟨emulation.family.name, emulation.family, 0, 0, false⟩

/-- The emulated board.  It keeps the state of whatever it is part of, and changes nothing. -/
def board (emulation : Emulation) (σ : Type) : Board σ where
  silicon s := (.ok emulation.silicon, s)
  frequency s := (.ok emulation.frequencyHz, s)
  setFrequency _ s := (.ok (.error (refusal "clock control")), s)
  testMedia target s := (.ok (.error (refusal ("media " ++ target.identifier))), s)
  encrypt _ _ _ s := (.ok (.error (refusal "hardware cipher")), s)
  serve _ s := .ended (.ok (.error (refusal "USB device mode"))) s

end Emulation

end BoardDiagnostics
