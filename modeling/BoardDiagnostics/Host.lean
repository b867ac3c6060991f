import BoardDiagnostics.Battery.Registry
import BoardDiagnostics.Checks.Files
import BoardDiagnostics.Checks.Randomness
import BoardDiagnostics.Checks.Scripting
import BoardDiagnostics.Checks.Signing
import BoardDiagnostics.Checks.Timing

/-!
# The host

The machine on which the diagnostics run, as far as the checks that do not need the board can
tell: its files, its clocks, its random source, and the keys that were drawn from it.
-/

set_option autoImplicit false

namespace BoardDiagnostics

/-- The answers of a host to the checks. -/
structure Host where
  files : FilesCheck.Answers
  /-- When a timer fires that is set to a period. -/
  woke : Duration → Duration
  /-- How long a sleep of a period takes. -/
  slept : Duration → Duration
  randomSource : RandomnessCheck.Source
  /-- How long the burst of random draws takes. -/
  randomTime : Duration
  /-- The key of the signing check. -/
  signingSecret : Nat
  signingTime : Duration
  /-- The key of the scripting check. -/
  scriptingSecret : Nat

/-- How the checks go on a host. -/
def Host.runs (host : Host) (config : Config) : HostCheck → CheckRun
  | .files => FilesCheck.run host.files
  | .timer =>
    let period := Duration.ofMilliseconds config.timing.sleepMs.toNat
    TimingCheck.timer period (host.woke period)
  | .sleep =>
    let period := Duration.ofMilliseconds config.timing.sleepMs.toNat
    TimingCheck.sleep period (host.slept period)
  | .randomness => RandomnessCheck.run config.randomness host.randomSource host.randomTime
  | .signing => SigningCheck.run host.signingSecret host.signingTime
  | .scripting => ScriptingCheck.run host.scriptingSecret

end BoardDiagnostics
