import BoardDiagnostics.Config.Basic
import BoardDiagnostics.Json.Record

/-!
# Reading a configuration

The keys of a configuration file, section by section, and what their values may be.
-/

set_option autoImplicit false

namespace BoardDiagnostics.Config

open Json

/-- A range of 32 bits. -/
def word32 : Width := ⟨"u32", 32⟩

/-- A range of 64 bits. -/
def word64 : Width := ⟨"u64", 64⟩

/-- The range of sizes in memory. -/
def size : Width := ⟨"usize", 64⟩

/-- A field for a size in memory. -/
def sizeField {ρ : Type} (key : String) (set : UInt64 → ρ → ρ) : RecordField ρ :=
  RecordField.of key (readNatural size) fun n => set (UInt64.ofNat n)

/-- The timing section. -/
def timingForm : RecordForm TimingConfig where
  name := "TimingConfig"
  standard := {}
  fields := [
    RecordField.of "sleep_ms" (readNatural word64) fun n c => { c with sleepMs := UInt64.ofNat n }]

/-- The randomness section. -/
def randomnessForm : RecordForm RandomnessConfig where
  name := "RngConfig"
  standard := {}
  fields := [
    sizeField "sample_size" fun n c => { c with sampleSize := n },
    sizeField "samples_logged" fun n c => { c with samplesLogged := n },
    sizeField "throughput_draws" fun n c => { c with throughputDraws := n }]

/-- The allocation section. -/
def allocationForm : RecordForm AllocationConfig where
  name := "AllocConfig"
  standard := {}
  fields := [
    sizeField "runs" fun n c => { c with runs := n },
    sizeField "chunks_max" fun n c => { c with chunksMax := n },
    sizeField "fill_bytes" fun n c => { c with fillBytes := n },
    RecordField.of "seed" (readOptional (readNatural word64)) fun n c =>
      { c with seed := n.map UInt64.ofNat }]

/-- The media section. -/
def mediaForm : RecordForm MediaConfig where
  name := "MediaConfig"
  standard := {}
  fields := [
    sizeField "byte_count" fun n c => { c with byteCount := n },
    sizeField "pre_device_mode_read_chunk" fun n c => { c with startupReadChunk := n },
    sizeField "post_device_mode_read_chunk" fun n c => { c with rerunReadChunk := n },
    RecordField.of "targets" (readList readText) fun names c => { c with targets := names }]

/-- The whole configuration. -/
def form : RecordForm Config where
  name := "HarnessConfig"
  standard := standard
  fields := [
    RecordField.of "verbose" readBool fun b c => { c with verbose := b },
    RecordField.of "target_cpu_mhz" (readNatural word32) fun n c =>
      { c with targetCpuMhz := UInt32.ofNat n },
    RecordField.of "timing" timingForm.read fun t c => { c with timing := t },
    RecordField.of "rng" randomnessForm.read fun r c => { c with randomness := r },
    RecordField.of "alloc" allocationForm.read fun a c => { c with allocation := a },
    RecordField.of "media" mediaForm.read fun m c => { c with media := m }]

/-- Read a configuration from the characters of a JSON text. -/
def readChars (cs : List Char) : Except Failure Config := readWhole form.read cs

/-- Read a configuration from a JSON text; a failure is told by its message. -/
def ofText (text : String) : Except String Config :=
  (readChars text.toList).mapError fun failure => failure.message text.toList

end BoardDiagnostics.Config
