import BoardDiagnostics.Board.Basic

/-!
# The probe

The one reading of the board on which all later decisions rest.  On physical hardware the
configured clock is requested first; a refusal is reported and the probe goes on with the clock
that the board has.
-/

set_option autoImplicit false

namespace BoardDiagnostics.Capabilities

variable {σ : Type}

/-- The line that reports a refused clock. -/
def clockWarning (fault : Fault) : Line :=
  .warn ("WARNING: error setting ARM frequency: " ++ fault.message)

/-- The line that tells what the silicon of a physical part is. -/
def identityLine (silicon : Silicon) (caps : Capabilities) : Line :=
  .info ("imx6_soc: " ++ caps.model ++ " (" ++ Text.hexNumber silicon.family.code ++ ", " ++
    toString silicon.revisionMajor ++ "." ++ toString silicon.revisionMinor ++ ") @ " ++
    toString caps.frequencyMhz ++ " MHz - native:true")

/-- Read the record of a board. -/
def probe (board : Board σ) (config : Config) : Work σ Capabilities := do
  let silicon ← board.readSilicon
  if silicon.native then
    match ← board.requestFrequency config.targetCpuMhz.toNat with
    | .ok () => pure ()
    | .error fault => Work.say (clockWarning fault)
    let frequencyHz ← board.readFrequency
    let caps : Capabilities := ⟨.physical, silicon.family, frequencyHz, silicon.model⟩
    Work.say (identityLine silicon caps)
    pure caps
  else
    let frequencyHz ← board.readFrequency
    pure ⟨.emulated, silicon.family, frequencyHz, silicon.model⟩

end BoardDiagnostics.Capabilities
