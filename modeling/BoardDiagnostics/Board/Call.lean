import BoardDiagnostics.Panic
import BoardDiagnostics.Fault
import BoardDiagnostics.Text.Hex
import BoardDiagnostics.Capability.Basic
import BoardDiagnostics.Media.Target

/-!
# Calls to a board

A call to a board with the reply it got, as the transcript of a run keeps it.  The device-mode
service is one long call, so its beginning, its end and each battery that it asks for on the
way are kept apart.
-/

set_option autoImplicit false

namespace BoardDiagnostics

/-- A call to a board and the reply to it. -/
inductive Call where
  /-- The identity was read. -/
  | silicon (reply : Reply Silicon)
  /-- The clock was read. -/
  | frequency (reply : Reply Nat)
  /-- The clock was to be changed. -/
  | setFrequency (mhz : Nat) (reply : Reply (Except Fault Unit))
  /-- A storage medium was to be tested. -/
  | testMedia (target : MediaTarget) (reply : Reply (Except Fault Unit))
  /-- Octets were to be enciphered. -/
  | encrypt (key iv data : Octets) (reply : Reply (Except Fault Octets))
  /-- The device-mode service was entered. -/
  | serveBegun (caps : Capabilities)
  /-- A battery that the service had asked for has ended. -/
  | rerunEnded (result : Except Fault Unit)
  /-- The device-mode service has ended. -/
  | serveEnded (reply : Reply (Except Fault Unit))

end BoardDiagnostics
