/-!
# Silicon

The processor families that diagnostics tell apart, and the identity that a board reads from
its silicon.
-/

set_option autoImplicit false

namespace BoardDiagnostics

/-- A family of processors; all others are unknown. -/
inductive Family where
  | imx6Q
  | imx6DL
  | imx6SoloLite
  | imx6UL
  | imx6ULL
  | unknown
  deriving DecidableEq, Repr

namespace Family

/-- The code that the silicon reports for a family. -/
def code : Family → Nat
  | imx6SoloLite => 0x60
  | imx6DL => 0x61
  | imx6Q => 0x63
  | imx6UL => 0x64
  | imx6ULL => 0x65
  | unknown => 0x00

/-- The name of a family as it is shown. -/
def name : Family → String
  | imx6Q => "i.MX6Q"
  | imx6DL => "i.MX6DL"
  | imx6SoloLite => "i.MX6SL"
  | imx6UL => "i.MX6UL"
  | imx6ULL => "i.MX6ULL"
  | unknown => "unknown"

end Family

/-- The identity that a board reads from its silicon. -/
structure Silicon where
  model : String
  family : Family
  revisionMajor : Nat
  revisionMinor : Nat
  /-- The program runs on the physical part and not under emulation. -/
  native : Bool
  deriving DecidableEq, Repr

end BoardDiagnostics
