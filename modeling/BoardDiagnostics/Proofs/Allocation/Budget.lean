import BoardDiagnostics.Proofs.Allocation.Draw
import BoardDiagnostics.Proofs.Battery.Accounts
import BoardDiagnostics.Proofs.Config.Loading

/-!
# The budget of a drawn specification

A configuration that passes has an octet for each chunk that may be drawn, so the octets to fill are
split into chunks that are not empty, and what rounding down leaves over is less than an octet for
each chunk.  `fillRun` is a run of the stress with its chunks at hand, whose octets are counted up
in words of 64 bits; it goes as the run does, and counts the octets of the specification
(`fillRun_eq`).  The main statement, `drawn_spec_within_budget`, is all of this for every
specification that is drawn from a configuration that passes.
-/

set_option autoImplicit false

namespace BoardDiagnostics

/-- Fill so many chunks with an octet, beginning with the chunk of a number, up to the first that is
refused. -/
def Memory.fill (memory : Memory) (run size : Nat) (octet : UInt8) :
    Nat → Nat → Except (Nat × Refusal) (List Octets)
  | 0, _ => .ok []
  | count + 1, chunk =>
    match memory.refusal? run chunk size with
    | some refusal => .error (chunk, refusal)
    | none => (fill memory run size octet count (chunk + 1)).map (List.replicate size octet :: ·)

/-- Add the octets of chunks to a count, chunk by chunk; a count beyond 64 bits breaks off. -/
def countOctets : List Octets → Nat → Reply Nat
  | [], counted => .ok counted
  | chunk :: rest, counted =>
    if counted + chunk.length < Uniform.wordCount then countOctets rest (counted + chunk.length)
    else .error (.text "attempt to add with overflow")

namespace AllocationSpec

/-- One run of the stress with its chunks, which are filled with the lowest octet of its number: how
many octets it has filled, or how it ends. -/
def fillRun (spec : AllocationSpec) (memory : Memory) (run : Nat) : Reply (Except Reasons Nat) :=
  if Memory.greatestSize < spec.chunkCount * tableEntrySize then
    .error Memory.capacityOverflow
  else
    match memory.fill run spec.chunkSize (UInt8.ofNat run) spec.chunkCount 0 with
    | .error (chunk, refusal) => .ok (.error (spec.refusalReasons run chunk refusal))
    | .ok chunks => (countOctets chunks 0).map .ok

end AllocationSpec

/-! ## The run with chunks is the run -/

/-- Filling stops at the first chunk that is refused, and fills all chunks if there is none. -/
theorem Memory.fill_eq (memory : Memory) (run size : Nat) (octet : UInt8) (count chunk : Nat) :
    memory.fill run size octet count chunk =
      match memory.firstRefusal? run size count chunk with
      | some refused => .error refused
      | none => .ok (List.replicate count (List.replicate size octet)) := by
  induction count generalizing chunk with
  | zero => rfl
  | succ count ih =>
    unfold fill firstRefusal?
    cases memory.refusal? run chunk size with
    | some refusal => rfl
    | none =>
      simp only [ih]
      cases memory.firstRefusal? run size count (chunk + 1) with
      | some refused => rfl
      | none => rfl

/-- Chunks of one size are counted up to their product as long as that is within 64 bits. -/
theorem countOctets_replicate {size count counted : Nat} (octet : UInt8)
    (fits : counted + count * size < Uniform.wordCount) :
    countOctets (List.replicate count (List.replicate size octet)) counted =
      .ok (counted + count * size) := by
  induction count generalizing counted with
  | zero => rw [List.replicate_zero, countOctets, Nat.zero_mul, Nat.add_zero]
  | succ count ih =>
    rw [Nat.succ_mul] at fits ⊢
    have length : (List.replicate size octet).length = size := List.length_replicate
    rw [List.replicate_succ, countOctets, length, if_pos (by omega), ih (by omega)]
    congr 1
    omega

namespace AllocationSpec

variable {spec : AllocationSpec}

/-- The octets of a run never overflow if those of its specification do not. -/
theorem fillRun_eq (fits : spec.totalBytes < Uniform.wordCount) (memory : Memory) (run : Nat) :
    spec.fillRun memory run =
      (spec.runEnd? memory run).elim (.ok (.ok spec.totalBytes)) (·.map .error) := by
  unfold fillRun runEnd?
  split
  · rfl
  · rw [memory.fill_eq]
    cases memory.firstRefusal? run spec.chunkSize spec.chunkCount 0 with
    | some refused => rfl
    | none =>
      have counts : countOctets (List.replicate spec.chunkCount
          (List.replicate spec.chunkSize (UInt8.ofNat run))) 0 = .ok (0 + spec.totalBytes) :=
        countOctets_replicate _ (by rwa [Nat.zero_add])
      rw [Nat.zero_add] at counts
      simp only [counts]
      rfl

/-- A run that is among the completed ones has come to no end of its own. -/
theorem runEnd?_of_completed {memory : Memory} {count first run : Nat}
    (completed : run ∈ (spec.stressFrom memory count first).1) : spec.runEnd? memory run = none := by
  induction count generalizing first with
  | zero => cases completed
  | succ count ih =>
    cases ends : spec.runEnd? memory first with
    | some finish =>
      rw [spec.stressFrom_of_end memory ends] at completed
      cases completed
    | none =>
      rw [spec.stressFrom_of_none memory ends] at completed
      rcases List.mem_cons.mp completed with rfl | later
      · exact ends
      · exact ih later

/-! ## Within the budget -/

/-- What a specification keeps to that is drawn from a configuration. -/
structure WithinBudget (config : AllocationConfig) (spec : AllocationSpec) : Prop where
  runs_eq : spec.runs = config.runs.toNat
  runs_pos : 1 ≤ spec.runs
  count_pos : 1 ≤ spec.chunkCount
  count_le : spec.chunkCount ≤ config.chunksMax.toNat
  size_pos : 1 ≤ spec.chunkSize
  /-- The octets are counted in 64 bits. -/
  total_lt : spec.totalBytes < Uniform.wordCount
  total_le : spec.totalBytes ≤ config.fillBytes.toNat
  /-- What is left over of the octets to fill does not suffice for one more in each chunk. -/
  rest_lt : config.fillBytes.toNat - spec.totalBytes < spec.chunkCount
  /-- A run that is completed has counted all of them. -/
  counted : ∀ memory run, run ∈ (spec.stress memory).1 →
    spec.fillRun memory run = .ok (.ok spec.totalBytes)
  /-- No run breaks off because of its count. -/
  ends : ∀ memory run, spec.fillRun memory run =
    (spec.runEnd? memory run).elim (.ok (.ok spec.totalBytes)) (·.map .error)

/-- Octets that suffice for the chunks are split within their budget. -/
theorem withinBudget_split {config : AllocationConfig} {count : Nat}
    (runs : 1 ≤ config.runs.toNat) (first : 1 ≤ count) (last : count ≤ config.chunksMax.toNat)
    (covers : config.chunksMax.toNat ≤ config.fillBytes.toNat) :
    WithinBudget config (split config.runs.toNat count config.fillBytes.toNat) := by
  rw [split_of_pos first]
  have parts := Nat.div_add_mod config.fillBytes.toNat count
  have rest := Nat.mod_lt config.fillBytes.toNat first
  have word : config.fillBytes.toNat < Uniform.wordCount := config.fillBytes.toNat_lt
  generalize made : (⟨config.runs.toNat, count, config.fillBytes.toNat / count⟩ : AllocationSpec) =
    spec
  have total : spec.totalBytes = count * (config.fillBytes.toNat / count) := by
    rw [← made]
    rfl
  have total_lt : spec.totalBytes < Uniform.wordCount := by omega
  constructor
  case total_lt => exact total_lt
  case total_le => omega
  case ends => exact fillRun_eq total_lt
  case counted =>
    intro memory run completed
    rw [fillRun_eq total_lt, runEnd?_of_completed completed]
    rfl
  all_goals subst made
  case runs_eq => rfl
  case runs_pos => exact runs
  case count_pos => exact first
  case count_le => exact last
  case size_pos => exact Nat.div_pos (last.trans covers) first
  case rest_lt =>
    show config.fillBytes.toNat - count * (config.fillBytes.toNat / count) < count
    omega

end AllocationSpec

/-- What is drawn from a configuration that passes keeps to its budget. -/
theorem drawn_spec_within_budget {config : Config} (valid : config.validate = .ok ())
    (supply : Uniform.Supply) (i : Nat) :
    (AllocationSpec.draw config.allocation supply i).1.WithinBudget config.allocation := by
  obtain ⟨runs, chunks, covers, -⟩ := Config.validate_eq_ok_iff.mp valid
  obtain ⟨count, first, last, drawn⟩ :=
    AllocationSpec.exists_draw_eq_split config.allocation chunks supply i
  rw [drawn]
  exact AllocationSpec.withinBudget_split runs first last covers

/-- Three chunks at most for ten octets: the word in front is passed over, the next one gives two
chunks of five octets. -/
theorem drawn_spec_within_budget_of_ten :
    let config : Config := { allocation := { runs := 2, chunksMax := 3, fillBytes := 10 } }
    let words := Uniform.Supply.ofList [0x5555555555555555, 0x8000000000000000]
    config.validate = .ok () ∧
      AllocationSpec.draw config.allocation words 0 = (⟨2, 2, 5⟩, 2) ∧
      AllocationSpec.WithinBudget config.allocation ⟨2, 2, 5⟩ := by
  intro config words
  have valid : config.validate = .ok () := by decide
  have drawn : AllocationSpec.draw config.allocation words 0 = (⟨2, 2, 5⟩, 2) := by decide
  have within := drawn_spec_within_budget valid words 0
  rw [drawn] at within
  exact ⟨valid, drawn, within⟩

end BoardDiagnostics
