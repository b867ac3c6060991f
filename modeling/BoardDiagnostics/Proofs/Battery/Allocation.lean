import BoardDiagnostics.Battery.Sequential
import BoardDiagnostics.Proofs.World

/-!
# The allocation step

The runs that the stress completes are the first ones, counted from one.  The table of chunks has
the same size in every run, so a stress that breaks off does so in its first run.
-/

set_option autoImplicit false

namespace BoardDiagnostics

variable {σ : Type}

namespace AllocationSpec

variable (spec : AllocationSpec) (memory : Memory)

/-- A stress ends in the first run that does not go on. -/
theorem stressFrom_of_end {run : Nat} {finish : Reply Reasons}
    (ends : spec.runEnd? memory run = some finish) (count : Nat) :
    spec.stressFrom memory (count + 1) run = ([], finish.map .error) := by
  rw [stressFrom, ends]

/-- A stress goes on behind a completed run. -/
theorem stressFrom_of_none {run : Nat} (goes : spec.runEnd? memory run = none) (count : Nat) :
    spec.stressFrom memory (count + 1) run =
      (run :: (spec.stressFrom memory count (run + 1)).1,
        (spec.stressFrom memory count (run + 1)).2) := by
  rw [stressFrom, goes]

/-- The runs that are completed follow one another from the first one on. -/
theorem stressFrom_completed (count run : Nat) :
    ∃ cycles ≤ count, (spec.stressFrom memory count run).1 = List.range' run cycles := by
  induction count generalizing run with
  | zero => exact ⟨0, Nat.le_refl 0, rfl⟩
  | succ count ih =>
    cases ends : spec.runEnd? memory run with
    | none =>
      obtain ⟨cycles, few, completed⟩ := ih (run + 1)
      refine ⟨cycles + 1, Nat.succ_le_succ few, ?_⟩
      rw [spec.stressFrom_of_none memory ends, completed, List.range'_succ]
    | some finish =>
      rw [spec.stressFrom_of_end memory ends]
      exact ⟨0, Nat.zero_le _, rfl⟩

/-- A run breaks off exactly if the table of its chunks is beyond all memory. -/
theorem runEnd?_eq_panic_iff (run : Nat) :
    (∃ panic, spec.runEnd? memory run = some (.error panic)) ↔
      Memory.greatestSize < spec.chunkCount * tableEntrySize := by
  unfold runEnd?
  split
  · next large => exact ⟨fun _ => large, fun _ => ⟨_, rfl⟩⟩
  · next small =>
    split
    · simp [small]
    · simp [small]

/-- A stress breaks off only if the table of its chunks is beyond all memory. -/
theorem stressFrom_eq_panic {panic : Panic} (count run : Nat)
    (broke : (spec.stressFrom memory count run).2 = .error panic) :
    Memory.greatestSize < spec.chunkCount * tableEntrySize := by
  induction count generalizing run with
  | zero => cases broke
  | succ count ih =>
    rcases ends : spec.runEnd? memory run with _ | first | reasons
    · rw [spec.stressFrom_of_none memory ends] at broke
      exact ih (run + 1) broke
    · exact (spec.runEnd?_eq_panic_iff memory run).mp ⟨first, ends⟩
    · rw [spec.stressFrom_of_end memory ends] at broke
      cases broke

/-- A stress that breaks off completes no run. -/
theorem stress_of_panic {panic : Panic} (broke : (spec.stress memory).2 = .error panic) :
    (spec.stress memory).1 = [] := by
  have large := spec.stressFrom_eq_panic memory spec.runs 1 broke
  obtain ⟨first, finish⟩ := (spec.runEnd?_eq_panic_iff memory 1).mpr large
  unfold stress
  cases spec.runs with
  | zero => rfl
  | succ count => rw [spec.stressFrom_of_end memory finish]

end AllocationSpec

/-- The specification of an allocation step. -/
def Conditions.allocation (conditions : Conditions) (config : AllocationConfig) : AllocationSpec :=
  .ofConfig config conditions.entropy

/-- What the allocation step publishes, by its result: the beginning and then, unless it breaks
off, so many cycles and the end. -/
inductive AllocationTrace (spec : AllocationSpec) (conditions : Conditions) :
    Except Fault Unit → List Event → Prop where
  | finished {cycles : Nat} (few : cycles ≤ spec.runs) :
      AllocationTrace spec conditions (.ok ())
        (.allocationStarted spec.runs spec.chunkCount spec.chunkSize ::
          ((List.range' 1 cycles).map fun run => .allocationCycle run (conditions.runTime run)) ++
          [.allocationFinished cycles conditions.stressTime])
  | broken {panic : Panic} :
      AllocationTrace spec conditions (.error (brokenOff "alloc" panic))
        [.allocationStarted spec.runs spec.chunkCount spec.chunkSize]

/-- Each completed run publishes one cycle. -/
theorem events_flatMap_runEntries (spec : AllocationSpec) (times : Nat → Duration)
    (runs : List Nat) :
    Transcript.events (runs.flatMap (runEntries spec times)) =
      runs.map fun run => .allocationCycle run (times run) := by
  induction runs with
  | nil => rfl
  | cons run runs ih => simp [runEntries, ih]

/-- No run asks the board for anything. -/
theorem calls_flatMap_runEntries (spec : AllocationSpec) (times : Nat → Duration)
    (runs : List Nat) : Transcript.calls (runs.flatMap (runEntries spec times)) = [] := by
  induction runs with
  | nil => rfl
  | cons run runs ih => simp [runEntries, ih]

section

variable (config : AllocationConfig) (conditions : Conditions) (world : World σ)

/-- A stress that breaks off is the fault of its step, which publishes nothing but its beginning. -/
theorem runAllocation_of_panic {panic : Panic}
    (broke : ((conditions.allocation config).stress conditions.memory).2 = .error panic) :
    (runAllocation config conditions world).result = .error (brokenOff "alloc" panic) ∧
      AllocationTrace (conditions.allocation config) conditions
        (.error (brokenOff "alloc" panic))
        (Transcript.events (runAllocation config conditions world).notes) := by
  have none_completed := (conditions.allocation config).stress_of_panic conditions.memory broke
  have stress : (conditions.allocation config).stress conditions.memory = ([], .error panic) :=
    Prod.ext none_completed broke
  show (runStress (conditions.allocation config) conditions world).result = _ ∧
    AllocationTrace _ _ _
      (Transcript.events (runStress (conditions.allocation config) conditions world).notes)
  unfold runStress
  rw [stress]
  exact ⟨rfl, .broken⟩

/-- A stress that ends at all is reported, and the phase goes on in the same world. -/
theorem runAllocation_of_answer {answer : CheckResult}
    (ends : ((conditions.allocation config).stress conditions.memory).2 = .ok answer) :
    (runAllocation config conditions world).result = .ok () ∧
      (runAllocation config conditions world).state = world ∧
      AllocationTrace (conditions.allocation config) conditions (.ok ())
        (Transcript.events (runAllocation config conditions world).notes) := by
  show (runStress (conditions.allocation config) conditions world).result = _ ∧
    (runStress (conditions.allocation config) conditions world).state = _ ∧
    AllocationTrace _ _ _
      (Transcript.events (runStress (conditions.allocation config) conditions world).notes)
  generalize conditions.allocation config = spec at ends
  obtain ⟨cycles, few, completed⟩ := spec.stressFrom_completed conditions.memory spec.runs 1
  have stress : spec.stress conditions.memory = (List.range' 1 cycles, .ok answer) :=
    Prod.ext completed ends
  have trace : AllocationTrace spec conditions (.ok ()) _ := .finished few
  unfold runStress
  rw [stress]
  cases answer with
  | error reasons =>
    refine ⟨rfl, rfl, ?_⟩
    simpa [events_flatMap_runEntries, stressBegin, stressEnd] using trace
  | ok _ =>
    refine ⟨rfl, rfl, ?_⟩
    simpa [events_flatMap_runEntries, stressBegin, stressEnd] using trace

end

end BoardDiagnostics
