import BoardDiagnostics.Board.Silicon

/-!
# Capabilities

What is known about the hardware once it has been probed.  Each decision that depends on the
hardware is one of the gates below, a function of the environment and the family.
-/

set_option autoImplicit false

namespace BoardDiagnostics

/-- The physical part or an emulator. -/
inductive Environment where
  | physical
  | emulated
  deriving DecidableEq, Repr

/-- The record of a probe, read by all phases and changed by none. -/
structure Capabilities where
  environment : Environment
  family : Family
  frequencyHz : Nat
  model : String
  deriving DecidableEq, Repr

namespace Capabilities

/-- The record of a board that goes by the name of its family. -/
def ofFamily (environment : Environment) (family : Family) (frequencyHz : Nat) : Capabilities :=
  ⟨environment, family, frequencyHz, family.name⟩

/-- The hardware is the physical part. -/
def isPhysical (caps : Capabilities) : Bool :=
  caps.environment = .physical

/-- The clock in whole megahertz. -/
def frequencyMhz (caps : Capabilities) : Nat :=
  caps.frequencyHz / 1000000

/-- The cipher check is among the concurrent units. -/
def hasHardwareCipher (caps : Capabilities) : Bool :=
  match caps.environment, caps.family with
  | .physical, .imx6ULL => true
  | _, _ => false

/-- Storage media are tested in the sequential phase. -/
def runsMediaChecks (caps : Capabilities) : Bool :=
  caps.isPhysical

/-- The device-mode service follows the diagnostics. -/
def supportsDeviceMode (caps : Capabilities) : Bool :=
  match caps.environment, caps.family with
  | .physical, .imx6UL | .physical, .imx6ULL => true
  | _, _ => false

end Capabilities

end BoardDiagnostics
