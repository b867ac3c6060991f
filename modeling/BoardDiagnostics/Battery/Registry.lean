import BoardDiagnostics.Checks.Cipher
import BoardDiagnostics.Checks.Run
import BoardDiagnostics.Concurrent.Unit

/-!
# The registry

The units of a concurrent phase, in launch order.  Six checks run everywhere; the cipher check
follows them on hardware that has a cipher.
-/

set_option autoImplicit false

namespace BoardDiagnostics

/-- A check that runs everywhere and does not need the board. -/
inductive HostCheck where
  | files
  | timer
  | sleep
  | randomness
  | signing
  | scripting
  deriving DecidableEq, Repr

namespace HostCheck

/-- The name of a check, which is its title too. -/
def name : HostCheck → String
  | files => "fs"
  | timer => "timer"
  | sleep => "sleep"
  | randomness => "rng"
  | signing => "ecdsa"
  | scripting => "btc"

/-- Where a check runs. -/
def placement : HostCheck → Placement
  | timer => .async
  | files | sleep | randomness | signing | scripting => .blocking

/-- The checks in launch order. -/
def all : List HostCheck := [files, timer, sleep, randomness, signing, scripting]

/-- A check as a unit, given how it goes. -/
def unit {σ : Type} (runs : HostCheck → CheckRun) (check : HostCheck) : CheckUnit σ :=
  ⟨check.name, check.name, check.placement, (runs check).work⟩

end HostCheck

/-- The cipher check as a unit. -/
def cipherUnit {σ : Type} (board : Board σ) : CheckUnit σ :=
  ⟨"dcp", "i.mx6 dcp", .blocking, CipherCheck.run board⟩

/-- The units for some hardware. -/
def registry {σ : Type} (caps : Capabilities) (board : Board σ) (runs : HostCheck → CheckRun) :
    List (CheckUnit σ) :=
  HostCheck.all.map (HostCheck.unit runs) ++
    (if caps.hasHardwareCipher then [cipherUnit board] else [])

end BoardDiagnostics
