import BoardDiagnostics.Config.Basic
import BoardDiagnostics.Random.Generator

/-!
# Allocation specifications

How much memory the allocation stress fills, and in how many chunks.  The chunk count is drawn
once; the octets to fill are split evenly over the chunks, rounding down.
-/

set_option autoImplicit false

namespace BoardDiagnostics

/-- The parameters of one allocation stress. -/
structure AllocationSpec where
  runs : Nat
  chunkCount : Nat
  chunkSize : Nat
  deriving DecidableEq, Repr

namespace AllocationSpec

/-- Split octets over so many chunks, at least one. -/
def split (runs chunkCount fillBytes : Nat) : AllocationSpec :=
  ⟨runs, max chunkCount 1, fillBytes / max chunkCount 1⟩

/-- The octets that are filled at once. -/
def totalBytes (spec : AllocationSpec) : Nat := spec.chunkCount * spec.chunkSize

/-- Draw a specification from random words, beginning with the word of a number; the second
component is the number of the first word that was not taken. -/
def draw (config : AllocationConfig) (supply : Uniform.Supply) (i : Nat) :
    AllocationSpec × Nat :=
  let (chunkCount, i) := Uniform.draw (max config.chunksMax.toNat 1) supply i
  (split config.runs.toNat chunkCount config.fillBytes.toNat, i)

/-- The specification of a step: drawn from the configured seed, or from the random words of the
machine if there is none. -/
def ofConfig (config : AllocationConfig) (entropy : Uniform.Supply) : AllocationSpec :=
  match config.seed with
  | some seed => (draw config (Generator.ofSeed seed) 0).1
  | none => (draw config entropy 0).1

end AllocationSpec

end BoardDiagnostics
