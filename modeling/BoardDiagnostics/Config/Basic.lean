import BoardDiagnostics.Fault

/-!
# Configuration

The parameters of a diagnostic run, section by section, with the values they have when nobody
sets them, and the conditions under which the diagnostics can work with them.
-/

set_option autoImplicit false

namespace BoardDiagnostics

/-- Parameters of the timer check and the sleep check. -/
structure TimingConfig where
  /-- The time to wait in milliseconds. -/
  sleepMs : UInt64 := 100
  deriving DecidableEq, Repr

/-- Parameters of the randomness check. -/
structure RandomnessConfig where
  /-- Octets per draw. -/
  sampleSize : UInt64 := 32
  /-- Draws shown on the console. -/
  samplesLogged : UInt64 := 10
  /-- Draws timed for throughput. -/
  throughputDraws : UInt64 := 1000
  deriving DecidableEq, Repr

/-- Parameters of the allocation stress. -/
structure AllocationConfig where
  /-- Cycles of filling and freeing. -/
  runs : UInt64 := 9
  /-- The largest number of chunks that may be drawn. -/
  chunksMax : UInt64 := 50
  /-- Octets filled in each run, split evenly over the chunks. -/
  fillBytes : UInt64 := 167772160
  /-- A fixed seed for the draw of the chunk count; without one the draw is random. -/
  seed : Option UInt64 := none
  deriving DecidableEq, Repr

/-- Parameters of the storage media checks. -/
structure MediaConfig where
  /-- Octets read from each target. -/
  byteCount : UInt64 := 10485760
  /-- The read size at startup. -/
  startupReadChunk : UInt64 := 32767
  /-- The read size of a battery that is run again from device mode. -/
  rerunReadChunk : UInt64 := 130560
  /-- The media to test, in order. -/
  targets : List String := ["usdhc1", "usdhc2"]
  deriving DecidableEq, Repr

/-- The parameters of a diagnostic run. -/
structure Config where
  /-- Lines go to the console; otherwise they are thrown away. -/
  verbose : Bool := true
  /-- The CPU clock to ask for on physical hardware. -/
  targetCpuMhz : UInt32 := 900
  timing : TimingConfig := {}
  randomness : RandomnessConfig := {}
  allocation : AllocationConfig := {}
  media : MediaConfig := {}
  deriving DecidableEq, Repr

namespace Config

/-- The configuration in which nothing is set. -/
def standard : Config := {}

/-- The first reason why the diagnostics cannot work with a configuration. -/
def problem? (config : Config) : Option String :=
  if config.allocation.runs = 0 then some "alloc.runs must be at least 1"
  else if config.allocation.chunksMax = 0 then some "alloc.chunks_max must be at least 1"
  else if config.allocation.fillBytes < config.allocation.chunksMax then
    some "alloc.fill_bytes must cover one byte per chunk"
  else if config.media.startupReadChunk = 0 ∨ config.media.rerunReadChunk = 0 then
    some "media read chunks must be non-zero"
  else if config.randomness.sampleSize = 0 then some "rng.sample_size must be non-zero"
  else none

/-- A configuration without a problem passes; the first problem of another is its fault. -/
def validate (config : Config) : Except Fault Unit :=
  match config.problem? with
  | none => .ok ()
  | some reason => .error (.invalidConfig reason)

end Config

end BoardDiagnostics
