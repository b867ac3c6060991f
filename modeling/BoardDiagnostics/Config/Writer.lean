import BoardDiagnostics.Config.Basic
import BoardDiagnostics.Json.Writer

/-!
# Writing a configuration

A configuration as compact JSON, with every field, in the order in which the fields are declared.
-/

set_option autoImplicit false

namespace BoardDiagnostics

open Json

/-- A number of 64 bits. -/
def writeWord (n : UInt64) : List Char := writeNatural n.toNat

/-- The timing section. -/
def TimingConfig.toChars (config : TimingConfig) : List Char :=
  writeObject [("sleep_ms", writeWord config.sleepMs)]

/-- The randomness section. -/
def RandomnessConfig.toChars (config : RandomnessConfig) : List Char :=
  writeObject [
    ("sample_size", writeWord config.sampleSize),
    ("samples_logged", writeWord config.samplesLogged),
    ("throughput_draws", writeWord config.throughputDraws)]

/-- The allocation section. -/
def AllocationConfig.toChars (config : AllocationConfig) : List Char :=
  writeObject [
    ("runs", writeWord config.runs),
    ("chunks_max", writeWord config.chunksMax),
    ("fill_bytes", writeWord config.fillBytes),
    ("seed", writeOptional (config.seed.map writeWord))]

/-- The media section. -/
def MediaConfig.toChars (config : MediaConfig) : List Char :=
  writeObject [
    ("byte_count", writeWord config.byteCount),
    ("pre_device_mode_read_chunk", writeWord config.startupReadChunk),
    ("post_device_mode_read_chunk", writeWord config.rerunReadChunk),
    ("targets", writeList (config.targets.map writeString))]

namespace Config

/-- The characters of a configuration in JSON. -/
def toChars (config : Config) : List Char :=
  writeObject [
    ("verbose", writeBool config.verbose),
    ("target_cpu_mhz", writeNatural config.targetCpuMhz.toNat),
    ("timing", config.timing.toChars),
    ("rng", config.randomness.toChars),
    ("alloc", config.allocation.toChars),
    ("media", config.media.toChars)]

/-- A configuration in JSON. -/
def toText (config : Config) : String := String.ofList config.toChars

end Config

end BoardDiagnostics
