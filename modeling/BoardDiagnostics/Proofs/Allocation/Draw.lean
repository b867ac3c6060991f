import BoardDiagnostics.Allocation.Spec
import BoardDiagnostics.Proofs.Random.Uniform

/-!
# The draw of the chunk count

Every random word either settles the draw of a chunk count or is passed over, and which of the two
it does depends neither on the words before it nor on those behind it.  The main statement,
`chunk_count_drawn_uniformly`, is that each chunk count that may be drawn is settled by the same
count of words, two to the power of the leading zeros of the greatest one; that these are at least
half of all words; and that a draw passes words over until one settles it.
-/

set_option autoImplicit false

namespace BoardDiagnostics

/-- The greatest chunk count that may be drawn; a zero counts as one. -/
def AllocationConfig.greatestCount (config : AllocationConfig) : UInt64 :=
  if config.chunksMax = 0 then 1 else config.chunksMax

namespace AllocationConfig

variable (config : AllocationConfig)

/-- The greatest chunk count is the configured one, and one at least. -/
theorem toNat_greatestCount : config.greatestCount.toNat = max config.chunksMax.toNat 1 := by
  unfold greatestCount
  split
  · next zero =>
    rw [zero]
    rfl
  · next nonzero =>
    have positive : config.chunksMax.toNat ≠ 0 := fun zero => nonzero (UInt64.toNat_inj.mp zero)
    omega

/-- A configured count of one or more is the greatest one. -/
theorem toNat_greatestCount_of_pos (some_chunks : 1 ≤ config.chunksMax.toNat) :
    config.greatestCount.toNat = config.chunksMax.toNat := by
  rw [toNat_greatestCount, Nat.max_eq_left some_chunks]

/-- There is a chunk count to draw. -/
theorem greatestCount_pos : 0 < config.greatestCount.toNat := by
  rw [toNat_greatestCount]
  omega

/-- The greatest chunk count fits a word. -/
theorem greatestCount_lt : config.greatestCount.toNat < Uniform.wordCount :=
  config.greatestCount.toNat_lt

end AllocationConfig

namespace AllocationSpec

/-- The word settles the draw wherever it is met: it is the last one taken, and this is the chunk
count. -/
def Settles (config : AllocationConfig) (word : UInt64) (chunkCount : Nat) : Prop :=
  ∀ (supply : Uniform.Supply) (i : Nat), supply.get i = word →
    (draw config supply i).1.chunkCount = chunkCount ∧ (draw config supply i).2 = i + 1

/-- The word is passed over wherever it is met: the draw goes on as if it began behind it. -/
def PassesOver (config : AllocationConfig) (word : UInt64) : Prop :=
  ∀ (supply : Uniform.Supply) (i : Nat), supply.get i = word →
    draw config supply i = draw config supply (i + 1)

/-- What it takes for the draw of a chunk count to be uniform. -/
structure DrawnUniformly (config : AllocationConfig) : Prop where
  /-- Every word is of one of the two sorts. -/
  sorted : ∀ word, PassesOver config word ∨ ∃ count, Settles config word count
  /-- No word is of both. -/
  apart : ∀ word count, Settles config word count → ¬ PassesOver config word
  /-- No word settles two counts. -/
  single : ∀ word count other, Settles config word count → Settles config word other → count = other
  range : ∀ word count, Settles config word count → 1 ≤ count ∧ count ≤ config.greatestCount.toNat
  /-- Every count has the same share of the words. -/
  shares : ∀ count, 1 ≤ count → count ≤ config.greatestCount.toNat →
    {word | Settles config word count}.ncard = 2 ^ config.greatestCount.toBitVec.clz.toNat
  /-- At least half of the words settle a count. -/
  half : 2 ^ 64 ≤ 2 * {word | ∃ count, Settles config word count}.ncard
  /-- A draw takes one word after another, up to the first that settles a count. -/
  order : ∀ supply i, ∃ stop count, i ≤ stop ∧
    (∀ k, i ≤ k → k < stop → PassesOver config (supply.get k)) ∧
    Settles config (supply.get stop) count ∧
    draw config supply i =
      (⟨config.runs.toNat, count, config.fillBytes.toNat / count⟩, stop + 1)

variable (config : AllocationConfig)

/-- A draw is a draw of a uniform number, by which the octets to fill are split. -/
theorem draw_eq (supply : Uniform.Supply) (i : Nat) :
    draw config supply i =
      (split config.runs.toNat (Uniform.draw config.greatestCount.toNat supply i).1
        config.fillBytes.toNat, (Uniform.draw config.greatestCount.toNat supply i).2) := by
  rw [config.toNat_greatestCount]
  rfl

/-- The count that is drawn is among those configured, and the octets to fill are split by it. -/
theorem exists_draw_eq_split (some_chunks : 1 ≤ config.chunksMax.toNat) (supply : Uniform.Supply)
    (i : Nat) : ∃ count, 1 ≤ count ∧ count ≤ config.chunksMax.toNat ∧
      (draw config supply i).1 = split config.runs.toNat count config.fillBytes.toNat := by
  obtain ⟨first, last⟩ :=
    Uniform.draw_range config.greatestCount_pos config.greatestCount_lt supply i
  refine ⟨_, first, last.trans_eq (config.toNat_greatestCount_of_pos some_chunks), ?_⟩
  rw [draw_eq]

variable {config} {word : UInt64}

/-- A count of one or more splits the octets as it is. -/
theorem split_of_pos {count : Nat} (first : 1 ≤ count) (runs fillBytes : Nat) :
    split runs count fillBytes = ⟨runs, count, fillBytes / count⟩ := by
  rw [split, Nat.max_eq_left first]

/-- A word that gives a number settles the draw on it. -/
theorem settles_of_accepted {count : Nat}
    (accepted : Uniform.ofWord? config.greatestCount.toNat word = some count) :
    Settles config word count := by
  rintro supply i rfl
  have first := (Uniform.range_of_ofWord? config.greatestCount_pos config.greatestCount_lt accepted).1
  rw [draw_eq, Uniform.draw_of_accepted accepted, split_of_pos first]
  exact ⟨rfl, rfl⟩

/-- A word that gives no number is passed over. -/
theorem passesOver_of_rejected
    (rejected : Uniform.ofWord? config.greatestCount.toNat word = none) : PassesOver config word := by
  rintro supply i rfl
  rw [draw_eq, draw_eq, Uniform.draw_of_rejected rejected]

/-- A word in front of nothing. -/
theorem exists_supply (word : UInt64) : ∃ supply : Uniform.Supply, supply.get 0 = word :=
  ⟨.ofList [word], rfl⟩

/-- A word settles the draw on one count only. -/
theorem settles_unique {count other : Nat} (settles : Settles config word count)
    (settles' : Settles config word other) : count = other := by
  obtain ⟨supply, met⟩ := exists_supply word
  exact (settles supply 0 met).1.symm.trans (settles' supply 0 met).1

/-- A draw takes a word. -/
theorem lt_of_draw (config : AllocationConfig) (supply : Uniform.Supply) (i : Nat) :
    i < (draw config supply i).2 := by
  obtain ⟨stop, count, later, -, -, draws⟩ :=
    Uniform.exists_stop config.greatestCount.toNat supply i
  rw [draw_eq, draws]
  exact Nat.lt_succ_of_le later

/-- A word that settles the draw is the last one taken, so it is not passed over. -/
theorem not_passesOver_of_settles {count : Nat} (settles : Settles config word count) :
    ¬ PassesOver config word := by
  intro passes
  obtain ⟨supply, met⟩ := exists_supply word
  have one := (settles supply 0 met).2
  have more := lt_of_draw config supply 1
  rw [← passes supply 0 met] at more
  omega

/-- A word settles the draw on a count exactly if it gives that number. -/
theorem settles_iff {count : Nat} :
    Settles config word count ↔ Uniform.ofWord? config.greatestCount.toNat word = some count := by
  refine ⟨fun settles => ?_, settles_of_accepted⟩
  cases gives : Uniform.ofWord? config.greatestCount.toNat word with
  | none => exact absurd (passesOver_of_rejected gives) (not_passesOver_of_settles settles)
  | some other => rw [settles_unique settles (settles_of_accepted gives)]

/-- Words are chosen by the seed, if there is one.  The generator is a variable, since it gives too
many words for a draw from them to be unfolded. -/
theorem exists_supply_of_seed (drawFrom : Uniform.Supply → AllocationSpec)
    (ofSeed : UInt64 → Uniform.Supply) (entropy : Uniform.Supply) (seed : Option UInt64) :
    ∃ supply,
      (match seed with
        | some seed => drawFrom (ofSeed seed)
        | none => drawFrom entropy) = drawFrom supply := by
  cases seed with
  | some seed => exact ⟨ofSeed seed, rfl⟩
  | none => exact ⟨entropy, rfl⟩

/-- The specification of a step is drawn from some words. -/
theorem exists_supply_of_config (config : AllocationConfig) (entropy : Uniform.Supply) :
    ∃ supply, ofConfig config entropy = (draw config supply 0).1 :=
  exists_supply_of_seed (fun supply => (draw config supply 0).1) Generator.ofSeed entropy config.seed

/-- The draw of a chunk count is uniform, whatever is configured. -/
theorem chunk_count_drawn_uniformly (config : AllocationConfig) : DrawnUniformly config where
  sorted word := by
    cases gives : Uniform.ofWord? config.greatestCount.toNat word with
    | none => exact .inl (passesOver_of_rejected gives)
    | some count => exact .inr ⟨count, settles_of_accepted gives⟩
  apart _ _ := not_passesOver_of_settles
  single _ _ _ := settles_unique
  range _ _ settles := Uniform.range_of_ofWord? config.greatestCount_pos config.greatestCount_lt
    (settles_iff.mp settles)
  shares count first last := by
    simp only [settles_iff]
    rw [Uniform.ncard_words config.greatestCount_pos config.greatestCount_lt first last,
      Uniform.leadingZeros_eq_clz]
  half := by
    simp only [settles_iff]
    rw [Uniform.ncard_accepted config.greatestCount_pos config.greatestCount_lt]
    exact (Uniform.accepted_bounds config.greatestCount_pos config.greatestCount_lt).1
  order supply i := by
    obtain ⟨stop, count, later, rejected, accepted, draws⟩ :=
      Uniform.exists_stop config.greatestCount.toNat supply i
    have first :=
      (Uniform.range_of_ofWord? config.greatestCount_pos config.greatestCount_lt accepted).1
    refine ⟨stop, count, later, ?_, settles_of_accepted accepted, ?_⟩
    · intro k from_i before
      exact passesOver_of_rejected (rejected k from_i before)
    · rw [draw_eq, draws, split_of_pos first]

end AllocationSpec

end BoardDiagnostics
