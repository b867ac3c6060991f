import BoardDiagnostics.Proofs.Allocation.Draw
import BoardDiagnostics.Proofs.Checks.Demands
import BoardDiagnostics.Proofs.Config.Loading

/-!
# Parameters that break checks off

A configuration passes without a limit to its sizes.  The chunks of the allocation stress may be
refused one by one, but its table of chunks may not, and neither may the buffers of the randomness
check, the texts in which it shows its samples and the count of its octets: the checks panic if one
of these is too large, and abort their process if there is no memory for it.  The main statement,
`passing_config_breaks_checks_off_iff`, says exactly when either check does so under a configuration
that passes, and which limits would rule the panics out.
-/

set_option autoImplicit false

namespace BoardDiagnostics

/-! ## The allocation stress -/

namespace AllocationSpec

/-- The table of the chunks is beyond all memory. -/
def Oversized (spec : AllocationSpec) : Prop := Memory.greatestSize < spec.tableSize

/-- Some words lead to the specification. -/
def DrawnFrom (config : AllocationConfig) (spec : AllocationSpec) : Prop :=
  ∃ supply i, (draw config supply i).1 = spec

/-- The specification has a run, and a chunk in its table. -/
structure Occupied (spec : AllocationSpec) : Prop where
  runs_pos : 1 ≤ spec.runs
  count_pos : 1 ≤ spec.chunkCount

/-- What is drawn from a configuration with runs and chunks has a run and a chunk. -/
theorem DrawnFrom.occupied {config : AllocationConfig} {spec : AllocationSpec}
    (drawn : spec.DrawnFrom config) (some_runs : 1 ≤ config.runs.toNat)
    (some_chunks : 1 ≤ config.chunksMax.toNat) : spec.Occupied := by
  obtain ⟨supply, i, rfl⟩ := drawn
  obtain ⟨count, first, -, drawn⟩ := exists_draw_eq_split config some_chunks supply i
  rw [drawn, split_of_pos first]
  exact ⟨some_runs, first⟩

/-- The specification of a step is drawn from its configuration, by a seed or by the words of the
machine. -/
theorem drawnFrom_of_config (config : AllocationConfig) (conditions : Conditions) :
    (conditions.allocation config).DrawnFrom config := by
  obtain ⟨supply, drawn⟩ := exists_supply_of_config config conditions.entropy
  exact ⟨supply, 0, drawn.symm⟩

/-- Some words lead to a specification whose table is beyond all memory exactly if the greatest
chunk count does. -/
theorem exists_oversized_iff {config : AllocationConfig}
    (some_chunks : 1 ≤ config.chunksMax.toNat) :
    (∃ spec : AllocationSpec, spec.DrawnFrom config ∧ spec.Oversized) ↔
      Memory.greatestSize < config.chunksMax.toNat * tableEntrySize := by
  constructor
  · rintro ⟨_, ⟨supply, i, rfl⟩, large⟩
    obtain ⟨count, first, last, drawn⟩ := exists_draw_eq_split config some_chunks supply i
    rw [drawn, split_of_pos first] at large
    exact Nat.lt_of_lt_of_le large (Nat.mul_le_mul_right tableEntrySize last)
  · intro large
    -- Every count up to the greatest is given by some word, so the greatest one is.
    obtain ⟨word, gives⟩ := Uniform.exists_word config.greatestCount_pos config.greatestCount_lt
      config.greatestCount_pos (Nat.le_refl _)
    obtain ⟨supply, met⟩ := exists_supply word
    refine ⟨_, ⟨supply, 0, rfl⟩, ?_⟩
    rw [Oversized, tableSize, (settles_of_accepted gives supply 0 met).1,
      config.toNat_greatestCount_of_pos some_chunks]
    exact large

variable {spec : AllocationSpec} (occupied : spec.Occupied) (memory : Memory)

include occupied

/-- A specification with a chunk has a table that takes memory. -/
theorem Occupied.tableSize_pos : spec.tableSize ≠ 0 :=
  Nat.ne_of_gt (Nat.mul_pos occupied.count_pos (by decide))

/-- The table has the same size in every run, so that a stress panics in its first one. -/
theorem attempt_eq_panic_iff (panic : Panic) :
    (spec.attempt memory).2 = .error (.panic panic) ↔
      spec.Oversized ∧ panic = Memory.capacityOverflow := by
  rw [attempt_eq_error_iff]
  simp only [Memory.demand_eq_panic_iff]
  constructor
  · rintro ⟨run, -, -, -, broke⟩
    exact broke
  · intro broke
    exact ⟨1, Nat.le_refl 1, occupied.runs_pos, by omega, broke⟩

/-- A stress is aborted in the first run that has no memory for its table, after runs that are
completed. -/
theorem attempt_eq_abort_iff :
    (spec.attempt memory).2 = .error .abort ↔
      ¬ spec.Oversized ∧ ∃ run, 1 ≤ run ∧ run ≤ spec.runs ∧
        (∀ earlier, 1 ≤ earlier → earlier < run → spec.runEnding? memory earlier = none) ∧
        memory.meets run spec.tableSize = false := by
  rw [attempt_eq_error_iff]
  simp only [Memory.demand_eq_abort_iff, Oversized, Nat.not_lt]
  constructor
  · rintro ⟨run, first, last, completed, -, fits, unmet⟩
    exact ⟨fits, run, first, last, completed, unmet⟩
  · rintro ⟨fits, run, first, last, completed, unmet⟩
    exact ⟨run, first, last, completed, occupied.tableSize_pos, fits, unmet⟩

/-- On a machine that meets no demand, the first run has no table. -/
theorem exists_attempt_eq_error {memory : Memory}
    (starved : ∀ number size, memory.meets number size = false) :
    ∃ breakoff, (spec.attempt memory).2 = .error breakoff := by
  by_cases large : spec.Oversized
  · exact ⟨_, (attempt_eq_panic_iff occupied memory _).mpr ⟨large, rfl⟩⟩
  · exact ⟨_, (attempt_eq_abort_iff occupied memory).mpr
      ⟨large, 1, Nat.le_refl 1, occupied.runs_pos, by omega, starved _ _⟩⟩

end AllocationSpec

/-! ## The randomness check -/

namespace RandomnessCheck

section

variable {memory : Memory} {config : RandomnessConfig} {source : Source}

/-- Whoever gets to a demand has got to those before it. -/
theorem Reaches.of_le {number earlier : Nat} (reaches : Reaches memory config source number)
    (before : earlier ≤ number) : Reaches memory config source earlier where
  met first within := reaches.met first (Nat.lt_of_lt_of_le within before)
  served draw within := by
    refine reaches.served draw (Nat.lt_of_lt_of_le within ?_)
    unfold drawsBefore
    split <;> split <;> omega

/-- A text is too large exactly if its digits are. -/
theorem greatestSize_lt_textSize_iff (size : Nat) :
    Memory.greatestSize < textSize size ↔ Memory.greatestSize < 2 * size := by
  unfold textSize Memory.greatestSize
  omega

variable (memory config source) in
/-- Only the first demands can be too large: the buffer of the samples, and the text of the first
sample. -/
theorem exists_oversized_demand_iff :
    (∃ number < demandCount config, Reaches memory config source number ∧
        Memory.greatestSize < demandSize config number) ↔
      Memory.greatestSize < config.sampleSize.toNat ∨
        (1 ≤ config.samplesLogged.toNat ∧ Memory.greatestSize < 2 * config.sampleSize.toNat ∧
          Reaches memory config source 1) := by
  rw [← greatestSize_lt_textSize_iff]
  constructor
  · rintro ⟨_ | draw, -, reaches, large⟩
    · exact .inl large
    rw [demandSize] at large
    split at large
    -- All texts have one size, so the first one is too large already; so has every buffer.
    · next sample => exact .inr ⟨by omega, large, reaches.of_le (by omega)⟩
    · exact .inl large
  · rintro (large | ⟨some_samples, large, reaches⟩)
    · exact ⟨0, Nat.succ_pos _, reaches_zero, large⟩
    · refine ⟨1, by unfold demandCount; omega, reaches, ?_⟩
      rw [demandSize, if_pos (Nat.lt_of_succ_le some_samples)]
      exact large

/-- An attempt at the check panics because of its first buffer, because of its first text, or
because of its count once all is drawn. -/
theorem attempt_eq_panic_iff (elapsed : Duration) (panic : Panic) :
    (attempt memory config source elapsed).ending = .error (.panic panic) ↔
      (Memory.greatestSize < config.sampleSize.toNat ∧ panic = Memory.capacityOverflow) ∨
        (1 ≤ config.samplesLogged.toNat ∧ Memory.greatestSize < 2 * config.sampleSize.toNat ∧
          Reaches memory config source 1 ∧ panic = Memory.capacityOverflow) ∨
        (Reaches memory config source (demandCount config) ∧
          Uniform.wordCount ≤ config.sampleSize.toNat * config.throughputDraws.toNat ∧
          panic = productOverflow) := by
  have too_large := exists_oversized_demand_iff memory config source
  rw [attempt_eq_error_iff]
  simp only [Memory.demand_eq_panic_iff, Breakoff.panic.injEq]
  constructor
  · rintro (⟨number, within, reaches, large, rfl⟩ | counts)
    · rcases too_large.mp ⟨number, within, reaches, large⟩ with buffer | ⟨samples, text, reaches⟩
      · exact .inl ⟨buffer, rfl⟩
      · exact .inr (.inl ⟨samples, text, reaches, rfl⟩)
    · exact .inr (.inr counts)
  · rintro (⟨buffer, rfl⟩ | ⟨samples, text, reaches, rfl⟩ | counts)
    · obtain ⟨number, within, reaches, large⟩ := too_large.mpr (.inl buffer)
      exact .inl ⟨number, within, reaches, large, rfl⟩
    · obtain ⟨number, within, reaches, large⟩ := too_large.mpr (.inr ⟨samples, text, reaches⟩)
      exact .inl ⟨number, within, reaches, large, rfl⟩
    · exact .inr counts

variable (some_octets : 1 ≤ config.sampleSize.toNat)

include some_octets

/-- A check of samples that are not empty demands no empty piece of memory. -/
theorem demandSize_pos (number : Nat) : demandSize config number ≠ 0 := by
  cases number with
  | zero =>
    rw [demandSize]
    omega
  | succ draw =>
    rw [demandSize, textSize]
    split <;> omega

/-- An attempt at the check is aborted at the first demand that there is no memory for. -/
theorem attempt_eq_abort_iff (elapsed : Duration) :
    (attempt memory config source elapsed).ending = .error .abort ↔
      ∃ number < demandCount config, Reaches memory config source number ∧
        demandSize config number ≤ Memory.greatestSize ∧
        memory.meets number (demandSize config number) = false := by
  rw [attempt_eq_error_iff]
  simp only [Memory.demand_eq_abort_iff, demandSize_pos some_octets, ne_eq, not_false_iff, true_and,
    reduceCtorEq, and_false, or_false]

/-- On a machine that meets no demand, there is no buffer for the samples. -/
theorem exists_attempt_eq_error (starved : ∀ number size, memory.meets number size = false)
    (elapsed : Duration) :
    ∃ breakoff, (attempt memory config source elapsed).ending = .error breakoff := by
  by_cases large : Memory.greatestSize < config.sampleSize.toNat
  · exact ⟨_, (attempt_eq_panic_iff elapsed _).mpr (.inl ⟨large, rfl⟩)⟩
  · exact ⟨_, (attempt_eq_abort_iff some_octets elapsed).mpr
      ⟨0, Nat.succ_pos _, reaches_zero, Nat.le_of_not_lt large, starved _ _⟩⟩

end

/-- A source that gives ones. -/
def ones : Source := fun size _ => .ok (List.replicate size 1)

/-- With ones and all the memory that there can be, only a demand that is too large stops the
check. -/
theorem reaches_of_ones {config : RandomnessConfig} (some_octets : 1 ≤ config.sampleSize.toNat)
    {number : Nat}
    (fits : ∀ earlier < number, demandSize config earlier ≤ Memory.greatestSize) :
    Reaches .boundless config ones number where
  met earlier before := (Memory.demand_eq_ok_iff _ _ _).mpr ⟨fits earlier before, fun _ => rfl⟩
  served draw _ := by
    refine ⟨_, rfl, fun _ => ?_⟩
    obtain ⟨more, octets⟩ : ∃ more, config.sampleSize.toNat = more + 1 :=
      ⟨config.sampleSize.toNat - 1, by omega⟩
    rw [octets]
    simp

/-- The sizes of the check are within their limits. -/
structure Moderate (config : RandomnessConfig) : Prop where
  buffer : config.sampleSize.toNat ≤ Memory.greatestSize
  /-- A text has two digits for each octet, if there are texts at all. -/
  text : 1 ≤ config.samplesLogged.toNat → 2 * config.sampleSize.toNat ≤ Memory.greatestSize
  /-- The octets of the burst are counted in 64 bits. -/
  burst : config.sampleSize.toNat * config.throughputDraws.toNat < Uniform.wordCount

/-- Moderate demands are none too large. -/
theorem demandSize_le {config : RandomnessConfig}
    (buffer : config.sampleSize.toNat ≤ Memory.greatestSize)
    (text : 1 ≤ config.samplesLogged.toNat → 2 * config.sampleSize.toNat ≤ Memory.greatestSize)
    (number : Nat) : demandSize config number ≤ Memory.greatestSize := by
  cases number with
  | zero => exact buffer
  | succ draw =>
    rw [demandSize]
    split
    · next sample =>
      exact Nat.le_of_not_lt fun large => Nat.not_lt.mpr (text (by omega))
        ((greatestSize_lt_textSize_iff _).mp large)
    · exact buffer

/-- The source of ones gets as far as the first size that is beyond its limit. -/
theorem never_panics_iff {config : RandomnessConfig} (some_octets : 1 ≤ config.sampleSize.toNat) :
    (∀ memory source elapsed panic,
      (attempt memory config source elapsed).ending ≠ .error (.panic panic)) ↔
      Moderate config := by
  constructor
  · intro holds
    -- Each limit is met in turn, as the source of ones gets there once those before it are.
    have breaks := fun panic =>
      (not_congr (attempt_eq_panic_iff .zero panic)).mp (holds .boundless ones .zero panic)
    have buffer : config.sampleSize.toNat ≤ Memory.greatestSize :=
      Nat.le_of_not_lt fun large => breaks _ (.inl ⟨large, rfl⟩)
    have text : 1 ≤ config.samplesLogged.toNat →
        2 * config.sampleSize.toNat ≤ Memory.greatestSize := by
      refine fun samples => Nat.le_of_not_lt fun large => ?_
      have reaches : Reaches .boundless config ones 1 := by
        refine reaches_of_ones some_octets fun earlier before => ?_
        obtain rfl := Nat.lt_one_iff.mp before
        exact buffer
      exact breaks _ (.inr (.inl ⟨samples, large, reaches, rfl⟩))
    refine ⟨buffer, text, Nat.lt_of_not_le fun overflows => ?_⟩
    have reaches : Reaches .boundless config ones (demandCount config) :=
      reaches_of_ones some_octets fun earlier _ => demandSize_le buffer text earlier
    exact breaks _ (.inr (.inr ⟨reaches, overflows, rfl⟩))
  · rintro ⟨buffer, text, burst⟩ memory source elapsed panic broke
    rcases (attempt_eq_panic_iff elapsed panic).mp broke
      with ⟨large, -⟩ | ⟨samples, large, -⟩ | ⟨-, overflows, -⟩
    · omega
    · exact Nat.not_lt.mpr (text samples) large
    · omega

end RandomnessCheck

/-! ## Both checks -/

/-- When the checks break off under a configuration, and how. -/
structure BreaksOffExactly (config : Config) : Prop where
  /-- A stress panics because of its table of chunks, and for no other reason. -/
  stress_panics : ∀ spec : AllocationSpec, spec.DrawnFrom config.allocation → ∀ memory panic,
    (spec.attempt memory).2 = .error (.panic panic) ↔
      spec.Oversized ∧ panic = Memory.capacityOverflow
  /-- It is aborted in the first run that has no memory for its table, after runs that are
  completed. -/
  stress_aborts : ∀ spec : AllocationSpec, spec.DrawnFrom config.allocation → ∀ memory,
    (spec.attempt memory).2 = .error .abort ↔
      ¬ spec.Oversized ∧ ∃ run, 1 ≤ run ∧ run ≤ spec.runs ∧
        (∀ earlier, 1 ≤ earlier → earlier < run → spec.runEnding? memory earlier = none) ∧
        memory.meets run spec.tableSize = false
  /-- Unless it is aborted, it completes the runs of the stress and ends as that does. -/
  stress_goes : ∀ (spec : AllocationSpec) memory, (spec.attempt memory).2 ≠ .error .abort →
    spec.attempt memory = ((spec.stress memory).1, Ending.ofReply (spec.stress memory).2)
  /-- Unless its stress is aborted, the allocation step fails only if the table is too large. -/
  step : ∀ {σ : Type} (conditions : Conditions) (world : World σ),
    ((conditions.allocation config.allocation).attempt conditions.memory).2 ≠ .error .abort →
      ∀ fault, (runAllocation config.allocation conditions world).result = .error fault ↔
        (conditions.allocation config.allocation).Oversized ∧
          fault = brokenOff "alloc" Memory.capacityOverflow
  /-- The randomness check panics because of its buffer, because of the text of the first sample
  once that is drawn, and because of the count of its octets once all is drawn. -/
  randomness_panics : ∀ memory source elapsed panic,
    (RandomnessCheck.attempt memory config.randomness source elapsed).ending =
        .error (.panic panic) ↔
      (Memory.greatestSize < config.randomness.sampleSize.toNat ∧
          panic = Memory.capacityOverflow) ∨
        (1 ≤ config.randomness.samplesLogged.toNat ∧
          Memory.greatestSize < 2 * config.randomness.sampleSize.toNat ∧
          RandomnessCheck.Reaches memory config.randomness source 1 ∧
          panic = Memory.capacityOverflow) ∨
        (RandomnessCheck.Reaches memory config.randomness source
            (RandomnessCheck.demandCount config.randomness) ∧
          Uniform.wordCount ≤
            config.randomness.sampleSize.toNat * config.randomness.throughputDraws.toNat ∧
          panic = RandomnessCheck.productOverflow)
  /-- It is aborted at the first demand that there is no memory for. -/
  randomness_aborts : ∀ memory source elapsed,
    (RandomnessCheck.attempt memory config.randomness source elapsed).ending = .error .abort ↔
      ∃ number < RandomnessCheck.demandCount config.randomness,
        RandomnessCheck.Reaches memory config.randomness source number ∧
        RandomnessCheck.demandSize config.randomness number ≤ Memory.greatestSize ∧
        memory.meets number (RandomnessCheck.demandSize config.randomness number) = false
  /-- Unless it is aborted, it goes as the check of a process that is not. -/
  randomness_goes : ∀ memory source elapsed,
    (RandomnessCheck.attempt memory config.randomness source elapsed).ending ≠ .error .abort →
      RandomnessCheck.attempt memory config.randomness source elapsed =
        ⟨(RandomnessCheck.run config.randomness source elapsed).lines,
          Ending.ofReply (RandomnessCheck.run config.randomness source elapsed).reply⟩
  /-- Neither check ever panics exactly if the table, the buffers, the texts and the count of the
  octets have a limit. -/
  never_panic_iff :
    ((∀ spec : AllocationSpec, spec.DrawnFrom config.allocation → ∀ memory panic,
        (spec.attempt memory).2 ≠ .error (.panic panic)) ∧
      ∀ memory source elapsed panic,
        (RandomnessCheck.attempt memory config.randomness source elapsed).ending ≠
          .error (.panic panic)) ↔
      config.allocation.chunksMax.toNat * AllocationSpec.tableEntrySize ≤ Memory.greatestSize ∧
        RandomnessCheck.Moderate config.randomness
  /-- No limit keeps a machine that meets no demand from breaking off both. -/
  starved : ∀ memory : Memory, (∀ number size, memory.meets number size = false) →
    (∀ spec : AllocationSpec, spec.DrawnFrom config.allocation →
      ∃ breakoff, (spec.attempt memory).2 = .error breakoff) ∧
    ∀ source elapsed, ∃ breakoff,
      (RandomnessCheck.attempt memory config.randomness source elapsed).ending = .error breakoff

section

variable {config : Config} (valid : config.validate = .ok ())

include valid

/-- A configuration that passes has a run, and a chunk in it. -/
theorem occupied_of_drawnFrom {spec : AllocationSpec} (drawn : spec.DrawnFrom config.allocation) :
    spec.Occupied :=
  drawn.occupied (Config.validate_eq_ok_iff.mp valid).1 (Config.validate_eq_ok_iff.mp valid).2.1

/-- A configuration that passes has no empty samples. -/
theorem some_octets : 1 ≤ config.randomness.sampleSize.toNat :=
  (Config.validate_eq_ok_iff.mp valid).2.2.2.2.2

/-- A stress that is not aborted fails its step exactly if it panics. -/
theorem runAllocation_eq_error_iff {σ : Type} (conditions : Conditions) (world : World σ)
    (alive : ((conditions.allocation config.allocation).attempt conditions.memory).2 ≠
      .error .abort) (fault : Fault) :
    (runAllocation config.allocation conditions world).result = .error fault ↔
      (conditions.allocation config.allocation).Oversized ∧
        fault = brokenOff "alloc" Memory.capacityOverflow := by
  have drawn := AllocationSpec.drawnFrom_of_config config.allocation conditions
  have panics := AllocationSpec.attempt_eq_panic_iff (occupied_of_drawnFrom valid drawn)
    conditions.memory
  simp only [AllocationSpec.attempt_of_alive alive] at panics
  cases ends : ((conditions.allocation config.allocation).stress conditions.memory).2 with
  | error panic =>
    obtain ⟨large, rfl⟩ := (panics panic).mp (by rw [ends]; rfl)
    rw [(runAllocation_of_panic config.allocation conditions world ends).1]
    simp only [large, true_and]
    exact ⟨fun same => (Except.error.inj same).symm, fun same => congrArg Except.error same.symm⟩
  | ok answer =>
    rw [(runAllocation_of_answer config.allocation conditions world ends).1]
    refine iff_of_false nofun ?_
    rintro ⟨large, -⟩
    have broke := (panics Memory.capacityOverflow).mpr ⟨large, rfl⟩
    rw [ends] at broke
    cases broke

/-- Only the greatest chunk count matters to the stress, as some words lead to it. -/
theorem stress_never_panics_iff :
    (∀ spec : AllocationSpec, spec.DrawnFrom config.allocation → ∀ memory panic,
      (spec.attempt memory).2 ≠ .error (.panic panic)) ↔
      config.allocation.chunksMax.toNat * AllocationSpec.tableEntrySize ≤ Memory.greatestSize := by
  have chunks : 1 ≤ config.allocation.chunksMax.toNat := (Config.validate_eq_ok_iff.mp valid).2.1
  rw [← Nat.not_lt, ← AllocationSpec.exists_oversized_iff chunks]
  constructor
  · rintro holds ⟨spec, drawn, large⟩
    have panics :=
      AllocationSpec.attempt_eq_panic_iff (occupied_of_drawnFrom valid drawn) .boundless
    exact holds spec drawn .boundless _ ((panics _).mpr ⟨large, rfl⟩)
  · intro none_large spec drawn memory panic broke
    have panics := AllocationSpec.attempt_eq_panic_iff (occupied_of_drawnFrom valid drawn) memory
    exact none_large ⟨spec, drawn, ((panics panic).mp broke).1⟩

end

/-- A configuration that passes may break either check off, for these reasons only. -/
theorem passing_config_breaks_checks_off_iff {config : Config} (valid : config.validate = .ok ()) :
    BreaksOffExactly config where
  stress_panics _ drawn := AllocationSpec.attempt_eq_panic_iff (occupied_of_drawnFrom valid drawn)
  stress_aborts _ drawn := AllocationSpec.attempt_eq_abort_iff (occupied_of_drawnFrom valid drawn)
  stress_goes _ _ := AllocationSpec.attempt_of_alive
  step := runAllocation_eq_error_iff valid
  randomness_panics _ _ := RandomnessCheck.attempt_eq_panic_iff
  randomness_aborts _ _ := RandomnessCheck.attempt_eq_abort_iff (some_octets valid)
  randomness_goes _ _ _ := RandomnessCheck.attempt_of_alive
  never_panic_iff := by
    rw [stress_never_panics_iff valid, RandomnessCheck.never_panics_iff (some_octets valid)]
  starved memory none_met := by
    refine ⟨fun spec drawn => ?_, fun source elapsed => ?_⟩
    · exact AllocationSpec.exists_attempt_eq_error (occupied_of_drawnFrom valid drawn) none_met
    · exact RandomnessCheck.exists_attempt_eq_error (some_octets valid) none_met elapsed

/-- The standard sizes are within all limits, so that an allocation step goes on in whatever process
is not aborted. -/
theorem checks_hold_out_under_standard_config :
    Config.standard.validate = .ok () ∧
      (∀ spec : AllocationSpec, spec.DrawnFrom Config.standard.allocation → ∀ memory panic,
        (spec.attempt memory).2 ≠ .error (.panic panic)) ∧
      (∀ memory source elapsed panic,
        (RandomnessCheck.attempt memory Config.standard.randomness source elapsed).ending ≠
          .error (.panic panic)) ∧
      ∀ (conditions : Conditions) (world : World Unit),
        ((conditions.allocation Config.standard.allocation).attempt conditions.memory).2 ≠
          .error .abort →
        (runAllocation Config.standard.allocation conditions world).result = .ok () := by
  have exactly := passing_config_breaks_checks_off_iff Config.validate_standard
  have moderate : RandomnessCheck.Moderate Config.standard.randomness :=
    ⟨by decide, fun _ => by decide, by decide⟩
  obtain ⟨stress, randomness⟩ := exactly.never_panic_iff.mpr ⟨by decide, moderate⟩
  refine ⟨Config.validate_standard, stress, randomness, fun conditions world alive => ?_⟩
  have drawn := AllocationSpec.drawnFrom_of_config Config.standard.allocation conditions
  cases ends : (runAllocation Config.standard.allocation conditions world).result with
  | error fault =>
    have large := ((exactly.step conditions world alive fault).mp ends).1
    have broke := (exactly.stress_panics _ drawn conditions.memory _).mpr ⟨large, rfl⟩
    exact absurd broke (stress _ drawn _ _)
  | ok _ => rfl

/-- The greatest sizes pass, but a table of so many chunks and a buffer of so many octets are beyond
all memory.  So is the text of a sample that is not, and the octets of a burst of such samples are
beyond 64 bits.  And a machine may have no memory for the standard sizes. -/
theorem passing_sizes_break_checks_off :
    let greatest : Config :=
      { allocation := { chunksMax := 0xffffffffffffffff, fillBytes := 0xffffffffffffffff }
        randomness := { sampleSize := 0xffffffffffffffff } }
    let long : Config := { randomness := { sampleSize := 0x4000000000000000 } }
    let wide : Config :=
      { randomness := { sampleSize := 0x100000000, throughputDraws := 0x100000000 } }
    let bare : Memory := ⟨fun _ _ _ => true, fun _ _ => false⟩
    greatest.validate = .ok () ∧ long.validate = .ok () ∧ wide.validate = .ok () ∧
      (∀ memory,
        ((AllocationSpec.draw greatest.allocation (.ofList [0xffffffffffffffff]) 0).1.attempt
          memory).2 = .error (.panic Memory.capacityOverflow)) ∧
      (∀ memory source elapsed,
        (RandomnessCheck.attempt memory greatest.randomness source elapsed).ending =
          .error (.panic Memory.capacityOverflow)) ∧
      (∀ elapsed,
        (RandomnessCheck.attempt .boundless long.randomness RandomnessCheck.ones elapsed).ending =
          .error (.panic Memory.capacityOverflow)) ∧
      (∀ elapsed,
        (RandomnessCheck.attempt .boundless wide.randomness RandomnessCheck.ones elapsed).ending =
          .error (.panic RandomnessCheck.productOverflow)) ∧
      ((AllocationSpec.draw Config.standard.allocation (.ofList []) 0).1.attempt bare).2 =
        .error .abort ∧
      ∀ source elapsed,
        (RandomnessCheck.attempt bare Config.standard.randomness source elapsed).ending =
          .error .abort := by
  intro greatest long wide bare
  refine ⟨by decide, by decide, by decide, ?_, ?_, ?_, ?_, ?_, ?_⟩
  · intro memory
    have drawn : (AllocationSpec.draw greatest.allocation (.ofList [0xffffffffffffffff]) 0).1 =
        ⟨9, 0xffffffffffffffff, 1⟩ := by decide
    have large : AllocationSpec.Oversized ⟨9, 0xffffffffffffffff, 1⟩ := by
      unfold AllocationSpec.Oversized
      decide
    rw [drawn, AllocationSpec.attempt_eq_panic_iff ⟨by decide, by decide⟩]
    exact ⟨large, rfl⟩
  · intro memory source elapsed
    exact (RandomnessCheck.attempt_eq_panic_iff elapsed _).mpr (.inl ⟨by decide, rfl⟩)
  · intro elapsed
    refine (RandomnessCheck.attempt_eq_panic_iff elapsed _).mpr
      (.inr (.inl ⟨by decide, by decide, ?_, rfl⟩))
    refine RandomnessCheck.reaches_of_ones (by decide) fun earlier before => ?_
    obtain rfl := Nat.lt_one_iff.mp before
    decide
  · intro elapsed
    refine (RandomnessCheck.attempt_eq_panic_iff elapsed _).mpr (.inr (.inr ⟨?_, by decide, rfl⟩))
    refine RandomnessCheck.reaches_of_ones (by decide) fun earlier _ => ?_
    exact RandomnessCheck.demandSize_le (by decide) (fun _ => by decide) earlier
  · rfl
  · intro source elapsed
    exact (RandomnessCheck.attempt_eq_abort_iff (by decide) elapsed).mpr
      ⟨0, Nat.succ_pos _, RandomnessCheck.reaches_zero, by decide, rfl⟩

end BoardDiagnostics
