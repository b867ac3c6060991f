import BoardDiagnostics.Checks.Randomness
import BoardDiagnostics.Proofs.Battery.Allocation

/-!
# Demands on memory

What an attempt at a check comes to depends on the demands that it makes of the memory, one after
another.  An attempt that is not aborted goes as the check does (`AllocationSpec.attempt_of_alive`,
`RandomnessCheck.attempt_of_alive`).  One that comes to an end without a result does so at the first
demand that is not met, and all that the check asks for before has gone well
(`AllocationSpec.attempt_eq_error_iff`, `RandomnessCheck.attempt_eq_error_iff`); only the count of
the octets of the randomness check, once all is drawn, can break it off as well.
-/

set_option autoImplicit false

namespace BoardDiagnostics

/-! ## The first stop of a loop -/

/-- One of so many numbers, beginning with a first one, makes a stop, and those before it pass. -/
def StopsWithin (passes stops : Nat → Prop) (first count : Nat) : Prop :=
  ∃ n, first ≤ n ∧ n < first + count ∧ (∀ m, first ≤ m → m < n → passes m) ∧ stops n

/-- So many numbers pass, beginning with a first one. -/
def PassesWithin (passes : Nat → Prop) (first count : Nat) : Prop :=
  ∀ n, first ≤ n → n < first + count → passes n

section

variable (passes stops : Nat → Prop) (first count : Nat)

/-- Nothing stops an empty loop. -/
theorem not_stopsWithin_zero : ¬ StopsWithin passes stops first 0 := by
  rintro ⟨n, from_first, before, -⟩
  omega

/-- Everything passes in an empty loop. -/
theorem passesWithin_zero : PassesWithin passes first 0 := by
  intro n from_first before
  omega

/-- A loop stops at its first number, or passes it and stops in the rest. -/
theorem stopsWithin_succ_iff :
    StopsWithin passes stops first (count + 1) ↔
      stops first ∨ (passes first ∧ StopsWithin passes stops (first + 1) count) := by
  constructor
  · rintro ⟨n, from_first, within, before, stop⟩
    rcases Nat.eq_or_lt_of_le from_first with rfl | later
    · exact .inl stop
    · refine .inr ⟨before first (Nat.le_refl first) later, n, later, by omega, ?_, stop⟩
      exact fun m behind => before m (Nat.le_of_lt behind)
  · rintro (stop | ⟨pass, n, behind, within, before, stop⟩)
    · exact ⟨first, Nat.le_refl first, by omega, by omega, stop⟩
    · refine ⟨n, by omega, by omega, ?_, stop⟩
      intro m from_first
      rcases Nat.eq_or_lt_of_le from_first with rfl | later
      · exact fun _ => pass
      · exact before m later

/-- A loop passes if its first number does, and the rest. -/
theorem passesWithin_succ_iff :
    PassesWithin passes first (count + 1) ↔
      passes first ∧ PassesWithin passes (first + 1) count := by
  constructor
  · intro all
    refine ⟨all first (Nat.le_refl first) (by omega), ?_⟩
    exact fun n behind within => all n (by omega) (by omega)
  · rintro ⟨pass, rest⟩ n from_first within
    rcases Nat.eq_or_lt_of_le from_first with rfl | later
    · exact pass
    · exact rest n later (by omega)

end

/-! ## The tables of the allocation stress -/

namespace AllocationSpec

variable {spec : AllocationSpec} {memory : Memory}

/-- A run whose table is not there ends with its demand. -/
theorem runEnding?_of_error {run : Nat} {breakoff : Breakoff}
    (unmet : memory.demand run spec.tableSize = .error breakoff) :
    spec.runEnding? memory run = some (.error breakoff) := by
  rw [runEnding?, unmet]

/-- A run whose table is there goes as in a process that is not aborted. -/
theorem runEnding?_of_ok {run : Nat} (met : memory.demand run spec.tableSize = .ok ()) :
    spec.runEnding? memory run = (spec.runEnd? memory run).map Ending.ofReply := by
  rw [runEnding?, met]

/-- Only its table keeps a run from ending with an answer. -/
theorem runEnding?_eq_error_iff {run : Nat} {breakoff : Breakoff} :
    spec.runEnding? memory run = some (.error breakoff) ↔
      memory.demand run spec.tableSize = .error breakoff := by
  cases demanded : memory.demand run spec.tableSize with
  | error first =>
    rw [runEnding?_of_error demanded]
    simp
  | ok _ =>
    rw [runEnding?_of_ok demanded]
    refine iff_of_false ?_ nofun
    -- The table is not too large, which is all that a run breaks off for.
    have small : ¬ Memory.greatestSize < spec.tableSize :=
      Nat.not_lt.mpr ((memory.demand_eq_ok_iff _ _).mp demanded).1
    rcases ends : spec.runEnd? memory run with _ | panic | reasons
    · exact nofun
    · exact absurd ((spec.runEnd?_eq_panic_iff memory run).mp ⟨panic, ends⟩) small
    · exact nofun

/-- A run that is completed is completed in a process that is not aborted. -/
theorem runEnd?_of_none {run : Nat} (goes : spec.runEnding? memory run = none) :
    spec.runEnd? memory run = none := by
  cases demanded : memory.demand run spec.tableSize with
  | error breakoff =>
    rw [runEnding?_of_error demanded] at goes
    cases goes
  | ok _ =>
    rw [runEnding?_of_ok demanded] at goes
    exact Option.map_eq_none_iff.mp goes

/-- A run that is not aborted ends as in a process that is not. -/
theorem runEnd?_of_some {run : Nat} {ending : Ending Reasons}
    (ends : spec.runEnding? memory run = some ending) (alive : ending ≠ .error .abort) :
    ∃ finish, spec.runEnd? memory run = some finish ∧ Ending.ofReply finish = ending := by
  rcases demanded : memory.demand run spec.tableSize with (panic | ⟨⟩) | ⟨⟩
  · rw [runEnding?_of_error demanded] at ends
    obtain ⟨large, rfl⟩ := (memory.demand_eq_panic_iff _ _ _).mp demanded
    exact ⟨.error Memory.capacityOverflow, if_pos large, Option.some.inj ends⟩
  · rw [runEnding?_of_error demanded] at ends
    exact absurd (Option.some.inj ends).symm alive
  · rw [runEnding?_of_ok demanded] at ends
    exact Option.map_eq_some_iff.mp ends

/-- An attempt ends in the first run that does not go on. -/
theorem attemptFrom_of_some {run : Nat} {ending : Ending Reasons}
    (ends : spec.runEnding? memory run = some ending) (count : Nat) :
    spec.attemptFrom memory (count + 1) run = ([], ending.map .error) := by
  rw [attemptFrom, ends]

/-- An attempt goes on behind a completed run. -/
theorem attemptFrom_of_none {run : Nat} (goes : spec.runEnding? memory run = none) (count : Nat) :
    spec.attemptFrom memory (count + 1) run =
      (run :: (spec.attemptFrom memory count (run + 1)).1,
        (spec.attemptFrom memory count (run + 1)).2) := by
  rw [attemptFrom, goes]

/-- Attempted runs that are not aborted are completed and end as those of the stress. -/
theorem attemptFrom_of_alive {count run : Nat}
    (alive : (spec.attemptFrom memory count run).2 ≠ .error .abort) :
    spec.attemptFrom memory count run =
      ((spec.stressFrom memory count run).1,
        Ending.ofReply (spec.stressFrom memory count run).2) := by
  induction count generalizing run with
  | zero => rfl
  | succ count ih =>
    cases ends : spec.runEnding? memory run with
    | none =>
      rw [attemptFrom_of_none ends] at alive ⊢
      rw [spec.stressFrom_of_none memory (runEnd?_of_none ends), ih alive]
    | some ending =>
      -- The ending of the run is that of the attempt, so it is no abort either.
      rw [attemptFrom_of_some ends] at alive ⊢
      obtain ⟨finish, ends', rfl⟩ := runEnd?_of_some ends
        fun aborted => alive (by rw [aborted]; rfl)
      rw [spec.stressFrom_of_end memory ends']
      cases finish with
      | error panic => rfl
      | ok reasons => rfl

/-- An attempt that is not aborted completes the runs of the stress and ends as it does. -/
theorem attempt_of_alive (alive : (spec.attempt memory).2 ≠ .error .abort) :
    spec.attempt memory = ((spec.stress memory).1, Ending.ofReply (spec.stress memory).2) :=
  attemptFrom_of_alive alive

/-- Attempted runs end without an answer at the first table that is not there, unless they end
before. -/
theorem attemptFrom_eq_error_iff {count run : Nat} {breakoff : Breakoff} :
    (spec.attemptFrom memory count run).2 = .error breakoff ↔
      StopsWithin (spec.runEnding? memory · = none)
        (memory.demand · spec.tableSize = .error breakoff) run count := by
  induction count generalizing run with
  | zero => exact iff_of_false nofun (not_stopsWithin_zero _ _ _)
  | succ count ih =>
    rw [stopsWithin_succ_iff, ← ih, ← runEnding?_eq_error_iff]
    rcases ends : spec.runEnding? memory run with _ | first | reasons
    · rw [attemptFrom_of_none ends]
      simp
    · rw [attemptFrom_of_some ends]
      simp [Except.map]
    · rw [attemptFrom_of_some ends]
      simp [Except.map]

/-- An attempt at the stress ends without an answer at the first table that is not there, all runs
before it being completed. -/
theorem attempt_eq_error_iff {breakoff : Breakoff} :
    (spec.attempt memory).2 = .error breakoff ↔
      ∃ run, 1 ≤ run ∧ run ≤ spec.runs ∧
        (∀ earlier, 1 ≤ earlier → earlier < run → spec.runEnding? memory earlier = none) ∧
        memory.demand run spec.tableSize = .error breakoff := by
  refine attemptFrom_eq_error_iff.trans ?_
  simp only [StopsWithin, Nat.add_comm 1, Nat.lt_succ_iff]

end AllocationSpec

/-! ## The buffers and the texts of the randomness check -/

namespace RandomnessCheck

section

variable (memory : Memory) (source : Source) (size : Nat)

/-- A draw gives octets that are not all zeros. -/
def Lights (draw : Nat) : Prop :=
  ∃ sample, source size draw = .ok sample ∧ sample.all (· = 0) = false

/-- A draw gives a sample, and there is a text for it. -/
def Shows (draw : Nat) : Prop :=
  Lights source size draw ∧ memory.demand (draw + 1) (textSize size) = .ok ()

/-- There is a buffer for a draw, and the draw gives octets. -/
def Fills (draw : Nat) : Prop :=
  memory.demand (draw + 1) size = .ok () ∧ ∃ octets, source size draw = .ok octets

variable {memory source size} {count draw : Nat}

/-- A source that fails gives no octets at all. -/
theorem not_lights_of_error {reason : String} (fails : source size draw = .error reason) :
    ¬ Lights source size draw := by
  rintro ⟨sample, gives, -⟩
  rw [fails] at gives
  cases gives

/-- A source that gives octets gives light exactly if they are not all zeros. -/
theorem lights_iff_of_ok {sample : Octets} (gives : source size draw = .ok sample) :
    Lights source size draw ↔ sample.all (· = 0) = false := by
  constructor
  · rintro ⟨same, given, lit⟩
    rwa [Except.ok.inj (gives.symm.trans given)]
  · exact fun lit => ⟨sample, gives, lit⟩

/-- Samples end without a result at the first text that is not there, behind samples that are shown.
-/
theorem samples_eq_error_iff {breakoff : Breakoff} :
    (samples memory source size count draw).2 = .error breakoff ↔
      StopsWithin (Shows memory source size) (fun n => Lights source size n ∧
        memory.demand (n + 1) (textSize size) = .error breakoff) draw count := by
  fun_induction samples memory source size count draw with
  | case1 => exact iff_of_false nofun (not_stopsWithin_zero _ _ _)
  | case2 draw count reason fails =>
    simp [stopsWithin_succ_iff, Shows, not_lights_of_error fails]
  | case3 draw count sample gives dark =>
    simp [stopsWithin_succ_iff, Shows, lights_iff_of_ok gives, dark]
  | case4 draw count sample gives lit first unmet =>
    simp [stopsWithin_succ_iff, Shows, lights_iff_of_ok gives, lit, unmet]
  | case5 draw count sample gives lit met lines ending rest ih =>
    simp only [rest] at ih
    simp [stopsWithin_succ_iff, Shows, lights_iff_of_ok gives, lit, met, ih]

/-- All samples are taken exactly if each of them is shown. -/
theorem samples_eq_ok_iff :
    (samples memory source size count draw).2 = .ok (.ok ()) ↔
      PassesWithin (Shows memory source size) draw count := by
  fun_induction samples memory source size count draw with
  | case1 => exact iff_of_true rfl (passesWithin_zero _ _)
  | case2 draw count reason fails =>
    simp [passesWithin_succ_iff, Shows, not_lights_of_error fails]
  | case3 draw count sample gives dark =>
    simp [passesWithin_succ_iff, Shows, lights_iff_of_ok gives, dark]
  | case4 draw count sample gives lit first unmet =>
    simp [passesWithin_succ_iff, Shows, unmet]
  | case5 draw count sample gives lit met lines ending rest ih =>
    simp only [rest] at ih
    simp [passesWithin_succ_iff, Shows, lights_iff_of_ok gives, lit, met, ih]

/-- A burst ends without a result at the first buffer that is not there, behind draws that fill
theirs. -/
theorem draws_eq_error_iff {breakoff : Breakoff} :
    draws memory source size count draw = .error breakoff ↔
      StopsWithin (Fills memory source size)
        (fun n => memory.demand (n + 1) size = .error breakoff) draw count := by
  fun_induction draws memory source size count draw with
  | case1 => exact iff_of_false nofun (not_stopsWithin_zero _ _ _)
  | case2 draw count first unmet => simp [stopsWithin_succ_iff, Fills, unmet]
  | case3 draw count met reason fails => simp [stopsWithin_succ_iff, Fills, met, fails]
  | case4 draw count met octets gives ih => simp [stopsWithin_succ_iff, Fills, met, gives, ih]

/-- A burst is completed exactly if each of its draws fills its buffer. -/
theorem draws_eq_ok_iff :
    draws memory source size count draw = .ok (.ok ()) ↔
      PassesWithin (Fills memory source size) draw count := by
  fun_induction draws memory source size count draw with
  | case1 => exact iff_of_true rfl (passesWithin_zero _ _)
  | case2 draw count first unmet => simp [passesWithin_succ_iff, Fills, unmet]
  | case3 draw count met reason fails => simp [passesWithin_succ_iff, Fills, met, fails]
  | case4 draw count met octets gives ih => simp [passesWithin_succ_iff, Fills, met, gives, ih]

/-- Samples that are not aborted are taken as on a machine that never runs out. -/
theorem samples_of_alive (alive : (samples memory source size count draw).2 ≠ .error .abort) :
    samples memory source size count draw = samples .boundless source size count draw := by
  fun_induction samples memory source size count draw with
  | case1 => rfl
  | case2 draw count reason fails => rw [samples, fails]
  | case3 draw count sample gives dark => simp only [samples, gives, dark, if_true]
  | case4 draw count sample gives lit first unmet =>
    -- Sizes are too large for every machine or for none, so only an abort depends on the machine.
    cases first with
    | abort => exact absurd rfl alive
    | panic panic => simp [samples, gives, lit, Memory.demand_boundless_of_panic unmet]
  | case5 draw count sample gives lit met lines ending rest ih =>
    rw [rest] at ih
    simp [samples, gives, lit, Memory.demand_boundless_of_ok met, ← ih alive]

/-- A burst that is not aborted is drawn as on a machine that never runs out. -/
theorem draws_of_alive (alive : draws memory source size count draw ≠ .error .abort) :
    draws memory source size count draw = draws .boundless source size count draw := by
  fun_induction draws memory source size count draw with
  | case1 => rfl
  | case2 draw count first unmet =>
    cases first with
    | abort => exact absurd rfl alive
    | panic panic => simp [draws, Memory.demand_boundless_of_panic unmet]
  | case3 draw count met reason fails => simp [draws, Memory.demand_boundless_of_ok met, fails]
  | case4 draw count met octets gives ih =>
    simp [draws, Memory.demand_boundless_of_ok met, gives, ih alive]

end

variable (memory : Memory) (config : RandomnessConfig) (source : Source)

/-- What the check demands under a number: first the buffer of the samples, then a text for each of
them, and then a buffer for each draw of the burst. -/
def demandSize : Nat → Nat
  | 0 => config.sampleSize.toNat
  | draw + 1 =>
    if draw < config.samplesLogged.toNat then textSize config.sampleSize.toNat
    else config.sampleSize.toNat

/-- The draws that are made before a demand: a text comes behind its sample, and a buffer in front
of its draw. -/
def drawsBefore (number : Nat) : Nat :=
  if number ≤ config.samplesLogged.toNat then number else number - 1

/-- A draw gives octets, and if it is a sample, not all of them are zeros. -/
def Serves (draw : Nat) : Prop :=
  ∃ octets, source config.sampleSize.toNat draw = .ok octets ∧
    (draw < config.samplesLogged.toNat → octets.all (· = 0) = false)

/-- The check gets to the demand of a number. -/
structure Reaches (number : Nat) : Prop where
  /-- All demands before it are met. -/
  met : ∀ earlier < number, memory.demand earlier (demandSize config earlier) = .ok ()
  /-- All draws before it serve. -/
  served : ∀ draw < drawsBefore config number, Serves config source draw

/-- The count of the demands of a check that is completed. -/
def demandCount : Nat := config.samplesLogged.toNat + config.throughputDraws.toNat + 1

variable {memory config source}

/-- The first demand is made in any case. -/
theorem reaches_zero : Reaches memory config source 0 where
  met := by omega
  served := by
    intro draw before
    rw [drawsBefore, if_pos (Nat.zero_le _)] at before
    omega

/-- A draw that is shown has to give light. -/
theorem serves_iff_of_lt {draw : Nat} (sample : draw < config.samplesLogged.toNat) :
    Serves config source draw ↔ Lights source config.sampleSize.toNat draw := by
  simp [Serves, Lights, sample]

/-- A draw of the burst has to give octets, whatever they are. -/
theorem serves_iff_of_le {draw : Nat} (burst : config.samplesLogged.toNat ≤ draw) :
    Serves config source draw ↔ ∃ octets, source config.sampleSize.toNat draw = .ok octets := by
  simp [Serves, Nat.not_lt.mpr burst]

/-- A sample is shown by the time of the demand behind its text. -/
theorem Reaches.shows {number draw : Nat} (reaches : Reaches memory config source number)
    (sample : draw < config.samplesLogged.toNat) (before : draw + 1 < number) :
    Shows memory source config.sampleSize.toNat draw := by
  have drawn : draw < drawsBefore config number := by
    unfold drawsBefore
    split <;> omega
  have text := reaches.met (draw + 1) before
  rw [demandSize, if_pos sample] at text
  exact ⟨(serves_iff_of_lt sample).mp (reaches.served draw drawn), text⟩

/-- The text of a sample is demanded once the samples before it are shown. -/
theorem reaches_text_iff {draw : Nat} (sample : draw < config.samplesLogged.toNat) :
    Reaches memory config source (draw + 1) ↔
      memory.demand 0 config.sampleSize.toNat = .ok () ∧
        PassesWithin (Shows memory source config.sampleSize.toNat) 0 draw ∧
        Lights source config.sampleSize.toNat draw := by
  have behind : drawsBefore config (draw + 1) = draw + 1 := if_pos sample
  constructor
  · intro reaches
    refine ⟨reaches.met 0 (by omega), ?_, ?_⟩
    · rintro n - before
      exact reaches.shows (by omega) (by omega)
    · exact (serves_iff_of_lt sample).mp (reaches.served draw (by omega))
  · rintro ⟨buffer, shows, lights⟩
    constructor
    case met =>
      intro earlier before
      cases earlier with
      | zero => exact buffer
      | succ n =>
        rw [demandSize, if_pos (by omega)]
        exact (shows n (Nat.zero_le n) (by omega)).2
    case served =>
      rw [behind]
      intro n before
      rcases Nat.lt_or_eq_of_le (Nat.le_of_lt_succ before) with earlier | rfl
      · exact (serves_iff_of_lt (by omega)).mpr (shows n (Nat.zero_le n) (by omega)).1
      · exact (serves_iff_of_lt sample).mpr lights

/-- The buffer of a draw is demanded once all samples are shown and the burst has got that far; the
same holds behind the last draw. -/
theorem reaches_buffer_iff (count : Nat) :
    Reaches memory config source (config.samplesLogged.toNat + count + 1) ↔
      memory.demand 0 config.sampleSize.toNat = .ok () ∧
        PassesWithin (Shows memory source config.sampleSize.toNat) 0 config.samplesLogged.toNat ∧
        PassesWithin (Fills memory source config.sampleSize.toNat) config.samplesLogged.toNat
          count := by
  have before_buffer : drawsBefore config (config.samplesLogged.toNat + count + 1) =
      config.samplesLogged.toNat + count := if_neg (by omega)
  constructor
  · intro reaches
    refine ⟨reaches.met 0 (by omega), ?_, ?_⟩
    · rintro n - before
      exact reaches.shows (by omega) (by omega)
    · intro n burst before
      have buffer := reaches.met (n + 1) (by omega)
      rw [demandSize, if_neg (by omega)] at buffer
      exact ⟨buffer, (serves_iff_of_le burst).mp (reaches.served n (by omega))⟩
  · rintro ⟨buffer, shows, fills⟩
    constructor
    case met =>
      intro earlier before
      cases earlier with
      | zero => exact buffer
      | succ n =>
        rw [demandSize]
        split
        · next shown => exact (shows n (Nat.zero_le n) (by omega)).2
        · exact (fills n (by omega) (by omega)).1
    case served =>
      rw [before_buffer]
      intro n before
      rcases Nat.lt_or_ge n config.samplesLogged.toNat with shown | burst
      · exact (serves_iff_of_lt shown).mpr (shows n (Nat.zero_le n) (by omega)).1
      · exact (serves_iff_of_le burst).mpr (fills n burst before).2

/-- An attempt at the check ends without a result in its buffer, its samples, its burst or its
count. -/
theorem attempt_ending_eq_error_iff (elapsed : Duration) {breakoff : Breakoff} :
    (attempt memory config source elapsed).ending = .error breakoff ↔
      memory.demand 0 config.sampleSize.toNat = .error breakoff ∨
        (memory.demand 0 config.sampleSize.toNat = .ok () ∧
          ((samples memory source config.sampleSize.toNat config.samplesLogged.toNat 0).2 =
              .error breakoff ∨
            ((samples memory source config.sampleSize.toNat config.samplesLogged.toNat 0).2 =
                .ok (.ok ()) ∧
              (draws memory source config.sampleSize.toNat config.throughputDraws.toNat
                  config.samplesLogged.toNat = .error breakoff ∨
                (draws memory source config.sampleSize.toNat config.throughputDraws.toNat
                    config.samplesLogged.toNat = .ok (.ok ()) ∧
                  0xffffffffffffffff < config.sampleSize.toNat * config.throughputDraws.toNat ∧
                  breakoff = .panic productOverflow))))) := by
  unfold attempt
  dsimp only
  rcases memory.demand 0 config.sampleSize.toNat with first | ⟨⟩
  · simp
  rcases samples memory source config.sampleSize.toNat config.samplesLogged.toNat 0
    with ⟨lines, first | reasons | ⟨⟩⟩
  · simp
  · simp
  rcases draws memory source config.sampleSize.toNat config.throughputDraws.toNat
    config.samplesLogged.toNat with first | reasons | ⟨⟩
  · simp
  · simp
  by_cases overflows : 0xffffffffffffffff <
    config.sampleSize.toNat * config.throughputDraws.toNat
  · simp [overflows, eq_comm]
  · simp [overflows]

/-- An attempt that is not aborted writes the lines of the check and ends as it does. -/
theorem attempt_of_alive {elapsed : Duration}
    (alive : (attempt memory config source elapsed).ending ≠ .error .abort) :
    attempt memory config source elapsed =
      ⟨(run config source elapsed).lines, Ending.ofReply (run config source elapsed).reply⟩ := by
  have kept : attempt memory config source elapsed = attempt .boundless config source elapsed := by
    rw [Ne, attempt_ending_eq_error_iff] at alive
    unfold attempt
    dsimp only
    rcases demanded : memory.demand 0 config.sampleSize.toNat with (panic | ⟨⟩) | ⟨⟩
    · rw [Memory.demand_boundless_of_panic demanded]
    · exact absurd (.inl demanded) alive
    have sampled := samples_of_alive fun aborted => alive (.inr ⟨demanded, .inl aborted⟩)
    rw [Memory.demand_boundless_of_ok demanded, ← sampled]
    rcases taken : samples memory source config.sampleSize.toNat config.samplesLogged.toNat 0
      with ⟨lines, first | reasons | ⟨⟩⟩
    · rfl
    · rfl
    have drawn := draws_of_alive fun aborted =>
      alive (.inr ⟨demanded, .inr ⟨congrArg Prod.snd taken, .inl aborted⟩⟩)
    rw [← drawn]
  rw [kept, run, CheckAttempt.run, Ending.ofReply_reply]

/-- An attempt at the check ends without a result at the first demand that is not met, or behind all
of them if the count of the octets does not fit 64 bits. -/
theorem attempt_eq_error_iff (elapsed : Duration) {breakoff : Breakoff} :
    (attempt memory config source elapsed).ending = .error breakoff ↔
      (∃ number < demandCount config, Reaches memory config source number ∧
        memory.demand number (demandSize config number) = .error breakoff) ∨
        (Reaches memory config source (demandCount config) ∧
          0xffffffffffffffff < config.sampleSize.toNat * config.throughputDraws.toNat ∧
          breakoff = .panic productOverflow) := by
  rw [attempt_ending_eq_error_iff, samples_eq_error_iff, samples_eq_ok_iff, draws_eq_error_iff,
    draws_eq_ok_iff, demandCount, reaches_buffer_iff]
  constructor
  · rintro (unmet | ⟨buffer, ⟨n, -, shown, shows, lights, unmet⟩ | ⟨shows, ends⟩⟩)
    · exact .inl ⟨0, Nat.succ_pos _, reaches_zero, unmet⟩
    · have sample : n < config.samplesLogged.toNat := by omega
      refine .inl ⟨n + 1, by omega, (reaches_text_iff sample).mpr ⟨buffer, ?_, lights⟩, ?_⟩
      · exact fun m from_first before => shows m from_first (by omega)
      · rw [demandSize, if_pos sample]
        exact unmet
    · rcases ends with ⟨n, burst, within, fills, unmet⟩ | ⟨fills, overflows, rfl⟩
      · obtain ⟨count, rfl⟩ := Nat.exists_eq_add_of_le burst
        refine .inl ⟨config.samplesLogged.toNat + count + 1, by omega,
          (reaches_buffer_iff count).mpr ⟨buffer, shows, ?_⟩, ?_⟩
        · exact fun m from_first before => fills m from_first before
        · rw [demandSize, if_neg (by omega)]
          exact unmet
      · exact .inr ⟨⟨buffer, shows, fills⟩, overflows, rfl⟩
  · rintro (⟨number, within, reaches, unmet⟩ | ⟨⟨buffer, shows, fills⟩, overflows, rfl⟩)
    · rcases number with _ | n
      · exact .inl unmet
      -- The other demands are those of the draws: a text for a sample, a buffer in the burst.
      rcases Nat.lt_or_ge n config.samplesLogged.toNat with sample | burst
      · obtain ⟨buffer, shows, lights⟩ := (reaches_text_iff sample).mp reaches
        rw [demandSize, if_pos sample] at unmet
        refine .inr ⟨buffer, .inl ⟨n, Nat.zero_le n, by omega, ?_, lights, unmet⟩⟩
        exact fun m from_first before => shows m from_first (by omega)
      · obtain ⟨count, rfl⟩ := Nat.exists_eq_add_of_le burst
        obtain ⟨buffer, shows, fills⟩ := (reaches_buffer_iff count).mp reaches
        rw [demandSize, if_neg (by omega)] at unmet
        refine .inr ⟨buffer, .inr ⟨shows, .inl ⟨_, burst, by omega, ?_, unmet⟩⟩⟩
        exact fun m from_first before => fills m from_first before
    · exact .inr ⟨buffer, .inr ⟨shows, .inr ⟨fills, overflows, rfl⟩⟩⟩

end RandomnessCheck

end BoardDiagnostics
