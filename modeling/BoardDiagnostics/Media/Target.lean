import BoardDiagnostics.Config.Basic

/-!
# Media targets

A storage medium to read in the sequential phase.  The read size depends on the occasion: the
device-mode service claims its share of on-chip memory before a battery is run again.
-/

set_option autoImplicit false

namespace BoardDiagnostics

/-- Why a battery of diagnostics is run. -/
inductive Occasion where
  /-- The program starts. -/
  | startup
  /-- The device-mode service asks for the battery again. -/
  | rerun
  deriving DecidableEq, Repr

/-- A storage medium, how much of it to read, and in what portions. -/
structure MediaTarget where
  identifier : String
  byteCount : Nat
  readChunk : Nat
  deriving DecidableEq, Repr

namespace MediaConfig

/-- The read size for an occasion. -/
def readChunk (config : MediaConfig) : Occasion → Nat
  | .startup => config.startupReadChunk.toNat
  | .rerun => config.rerunReadChunk.toNat

/-- The configured targets in order, with the read size for an occasion. -/
def targetsFor (config : MediaConfig) (occasion : Occasion) : List MediaTarget :=
  config.targets.map fun identifier =>
    ⟨identifier, config.byteCount.toNat, config.readChunk occasion⟩

end MediaConfig

end BoardDiagnostics
