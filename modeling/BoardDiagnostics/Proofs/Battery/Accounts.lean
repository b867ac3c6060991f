import BoardDiagnostics.Proofs.Battery.Allocation

/-!
# The accounts of an allocation step

The stress counts the runs it has completed, and so does its listener, who is told of each; which of
the two counts is reported depends on how the stress ends.  `countedStep` is the allocation step
with both counters kept apart and every reservation of a chunk on record, and it is the same step
(`runStress_eq_countedStep`).  After so many completed runs the books are balanced (`Books`), and a
stress goes on to balanced books until it has completed all runs, meets a refused chunk, or breaks
off (`exists_stressEnd`).  The main statement, `allocation_step_is_accounted`, is what the numbers
of the step are in each of these cases.
-/

set_option autoImplicit false

namespace BoardDiagnostics

variable {σ : Type}

/-- Ask for so many chunks, beginning with the chunk of a number, up to the first refusal: the run
and the number of each chunk that was asked for, and the refusal. -/
def Memory.ask (memory : Memory) (run size : Nat) :
    Nat → Nat → List (Nat × Nat) × Option (Nat × Refusal)
  | 0, _ => ([], none)
  | count + 1, chunk =>
    match memory.refusal? run chunk size with
    | some refusal => ([(run, chunk)], some (chunk, refusal))
    | none =>
      let (asked, refused) := ask memory run size count (chunk + 1)
      ((run, chunk) :: asked, refused)

/-- The books of a stress and of its listener. -/
structure Tally where
  /-- The runs that the stress has counted as completed. -/
  completed : Nat
  /-- The runs that the listener has counted. -/
  told : Nat
  /-- The run and the number of each chunk that was asked for. -/
  asked : List (Nat × Nat)
  /-- What was written and published. -/
  entries : Transcript

/-- Books with nothing in them. -/
def Tally.empty : Tally := ⟨0, 0, [], []⟩

namespace AllocationSpec

/-- The reasons of a stress that ends at a refused chunk. -/
def refusalReasons (spec : AllocationSpec) (run chunk : Nat) (refusal : Refusal) : Reasons :=
  (Reasons.of refusal.reason).within
    ("run " ++ toString run ++ ": allocating chunk " ++ toString chunk ++ " of " ++
      toString spec.chunkSize ++ " bytes")

/-- So many runs, beginning with the run of a number, with books: the books at the end, and the
count that the stress returns. -/
def countRuns (spec : AllocationSpec) (memory : Memory) (times : Nat → Duration) :
    Nat → Nat → Tally → Tally × Reply (Except Reasons Nat)
  | 0, _, tally => (tally, .ok (.ok tally.completed))
  | count + 1, run, tally =>
    if Memory.greatestSize < spec.chunkCount * tableEntrySize then
      (tally, .error Memory.capacityOverflow)
    else
      match memory.ask run spec.chunkSize spec.chunkCount 0 with
      | (asked, some (chunk, refusal)) =>
        ({ tally with asked := tally.asked ++ asked },
          .ok (.error (spec.refusalReasons run chunk refusal)))
      | (asked, none) =>
        countRuns spec memory times count (run + 1)
          ⟨tally.completed + 1, tally.told + 1, tally.asked ++ asked,
            tally.entries ++ runEntries spec times run⟩

/-- The whole stress with books. -/
def countedStress (spec : AllocationSpec) (conditions : Conditions) :
    Tally × Reply (Except Reasons Nat) :=
  spec.countRuns conditions.memory conditions.runTime spec.runs 1 .empty

end AllocationSpec

/-- The allocation step with books: after a failure it reports the count of the listener, and
otherwise the count that the stress returns. -/
def countedStep (spec : AllocationSpec) (conditions : Conditions) : Diagnosis σ Unit := do
  Activity.noteAll (stressBegin spec)
  let (tally, finish) := spec.countedStress conditions
  Activity.noteAll tally.entries
  match finish with
  | .error panic => Activity.fail (brokenOff "alloc" panic)
  | .ok (.error reasons) =>
    Diagnosis.say (.warn ("memory allocation check failed: " ++ reasons.text))
    Activity.noteAll (stressEnd tally.told conditions.stressTime)
  | .ok (.ok completed) => Activity.noteAll (stressEnd completed conditions.stressTime)

/-! ## The step with books is the step -/

/-- Asking on the record meets the same first refusal. -/
theorem Memory.ask_refused (memory : Memory) (run size count chunk : Nat) :
    (memory.ask run size count chunk).2 = memory.firstRefusal? run size count chunk := by
  induction count generalizing chunk with
  | zero => rfl
  | succ count ih =>
    unfold ask firstRefusal?
    cases memory.refusal? run chunk size with
    | none => exact ih (chunk + 1)
    | some refusal => rfl

namespace AllocationSpec

variable (spec : AllocationSpec) (memory : Memory) (times : Nat → Duration)

section

variable {spec memory} (count : Nat) {run : Nat} (tally : Tally)

/-- A table that is beyond all memory breaks the stress off before a chunk is asked for. -/
theorem countRuns_of_large (large : Memory.greatestSize < spec.chunkCount * tableEntrySize) :
    spec.countRuns memory times (count + 1) run tally = (tally, .error Memory.capacityOverflow) := by
  rw [countRuns, if_pos large]

variable (small : ¬ Memory.greatestSize < spec.chunkCount * tableEntrySize)
  {asked : List (Nat × Nat)}

include small

/-- A refused chunk ends the stress, with all that was asked for in its run on the record. -/
theorem countRuns_of_refused {chunk : Nat} {refusal : Refusal}
    (asks : memory.ask run spec.chunkSize spec.chunkCount 0 = (asked, some (chunk, refusal))) :
    spec.countRuns memory times (count + 1) run tally =
      ({ tally with asked := tally.asked ++ asked },
        .ok (.error (spec.refusalReasons run chunk refusal))) := by
  rw [countRuns, if_neg small, asks]

/-- A run whose chunks are all granted is entered in the books, and the stress goes on behind it. -/
theorem countRuns_of_granted
    (asks : memory.ask run spec.chunkSize spec.chunkCount 0 = (asked, none)) :
    spec.countRuns memory times (count + 1) run tally =
      spec.countRuns memory times count (run + 1)
        ⟨tally.completed + 1, tally.told + 1, tally.asked ++ asked,
          tally.entries ++ runEntries spec times run⟩ := by
  rw [countRuns, if_neg small, asks]

end

/-- The result of a stress with the count that it returns. -/
def counting (count : Nat) (finish : Reply CheckResult) : Reply (Except Reasons Nat) :=
  finish.map fun result => result.map fun _ => count

/-- With books, the stress completes the same runs and ends the same way. -/
theorem countRuns_eq (count run : Nat) (tally : Tally) :
    (spec.countRuns memory times count run tally).1.told =
        tally.told + (spec.stressFrom memory count run).1.length ∧
      (spec.countRuns memory times count run tally).1.entries =
        tally.entries ++ (spec.stressFrom memory count run).1.flatMap (runEntries spec times) ∧
      (spec.countRuns memory times count run tally).2 =
        counting (tally.completed + (spec.stressFrom memory count run).1.length)
          (spec.stressFrom memory count run).2 := by
  induction count generalizing run tally with
  | zero => exact ⟨rfl, (List.append_nil _).symm, rfl⟩
  | succ count ih =>
    by_cases large : Memory.greatestSize < spec.chunkCount * tableEntrySize
    · have ends : spec.runEnd? memory run = some (.error Memory.capacityOverflow) := if_pos large
      rw [countRuns_of_large times count tally large, stressFrom_of_end spec memory ends]
      exact ⟨rfl, (List.append_nil _).symm, rfl⟩
    have refused := memory.ask_refused run spec.chunkSize spec.chunkCount 0
    rcases asks : memory.ask run spec.chunkSize spec.chunkCount 0
      with ⟨asked, _ | ⟨chunk, refusal⟩⟩
    · have goes : spec.runEnd? memory run = none := by
        rw [runEnd?, if_neg large, ← refused, asks]
      rw [countRuns_of_granted times count tally large asks, stressFrom_of_none spec memory goes]
      obtain ⟨told, entries, finish⟩ := ih (run + 1) ⟨tally.completed + 1, tally.told + 1,
        tally.asked ++ asked, tally.entries ++ runEntries spec times run⟩
      rw [told, entries, finish]
      refine ⟨?_, ?_, ?_⟩
      · rw [List.length_cons]
        exact Nat.succ_add_eq_add_succ tally.told _
      · rw [List.append_assoc, List.flatMap_cons]
      · rw [List.length_cons]
        exact congrArg (counting · _) (Nat.succ_add_eq_add_succ tally.completed _)
    · have ends : spec.runEnd? memory run =
          some (.ok (spec.refusalReasons run chunk refusal)) := by
        rw [runEnd?, if_neg large, ← refused, asks]
        rfl
      rw [countRuns_of_refused times count tally large asks, stressFrom_of_end spec memory ends]
      exact ⟨rfl, (List.append_nil _).symm, rfl⟩

/-- With books, the whole stress tells of the same runs and ends the same way. -/
theorem countedStress_eq (conditions : Conditions) :
    (spec.countedStress conditions).1.told = (spec.stress conditions.memory).1.length ∧
      (spec.countedStress conditions).1.entries =
        (spec.stress conditions.memory).1.flatMap (runEntries spec conditions.runTime) ∧
      (spec.countedStress conditions).2 =
        counting (spec.stress conditions.memory).1.length (spec.stress conditions.memory).2 := by
  obtain ⟨told, entries, finish⟩ :=
    spec.countRuns_eq conditions.memory conditions.runTime spec.runs 1 .empty
  refine ⟨told.trans (Nat.zero_add _), entries, ?_⟩
  refine finish.trans ?_
  exact congrArg (counting · _) (Nat.zero_add _)

/-- The runs that a stress completes are the first ones. -/
theorem stress_completed :
    (spec.stress memory).1 = List.range' 1 (spec.stress memory).1.length := by
  obtain ⟨cycles, -, completed⟩ := spec.stressFrom_completed memory spec.runs 1
  have completed : (spec.stress memory).1 = List.range' 1 cycles := completed
  rw [completed, List.length_range']

end AllocationSpec

/-- Both counters run along with the runs that are completed, so the step with books does just what
the step does. -/
theorem runStress_eq_countedStep (spec : AllocationSpec) (conditions : Conditions) :
    (runStress spec conditions : Diagnosis σ Unit) = countedStep spec conditions := by
  obtain ⟨told, entries, finish⟩ := spec.countedStress_eq conditions
  unfold runStress countedStep
  generalize spec.countedStress conditions = books at told entries finish
  generalize spec.stress conditions.memory = stressed at told entries finish
  obtain ⟨tally, finish'⟩ := books
  obtain ⟨completed, result⟩ := stressed
  dsimp only at told entries finish ⊢
  rw [told, entries, finish]
  rcases result with panic | reasons | ⟨⟩
  · rfl
  · rfl
  · rfl

/-! ## Balanced books -/

/-- The run and the number of each of the first chunks of a run. -/
def chunksOf (run count : Nat) : List (Nat × Nat) := (List.range' 0 count).map (Prod.mk run)

/-- Among the first chunks of a run are those of that run with a smaller number. -/
theorem mem_chunksOf_iff {run count : Nat} {pair : Nat × Nat} :
    pair ∈ chunksOf run count ↔ pair.1 = run ∧ pair.2 < count := by
  obtain ⟨run', chunk⟩ := pair
  simp only [chunksOf, List.mem_map, List.mem_range'_1, Prod.mk.injEq]
  constructor
  · rintro ⟨_, ⟨-, within⟩, rfl, rfl⟩
    exact ⟨rfl, by omega⟩
  · rintro ⟨rfl, within⟩
    exact ⟨chunk, ⟨Nat.zero_le _, by omega⟩, rfl, rfl⟩

/-- Among the chunks of the completed runs are those of a run counted from one up to the last. -/
theorem mem_flatMap_chunksOf_iff {cycles count : Nat} {pair : Nat × Nat} :
    pair ∈ (List.range' 1 cycles).flatMap (chunksOf · count) ↔
      1 ≤ pair.1 ∧ pair.1 ≤ cycles ∧ pair.2 < count := by
  simp only [List.mem_flatMap, List.mem_range'_1, mem_chunksOf_iff]
  constructor
  · rintro ⟨run, ⟨first, last⟩, rfl, within⟩
    exact ⟨first, by omega, within⟩
  · rintro ⟨first, last, within⟩
    exact ⟨pair.1, ⟨first, by omega⟩, rfl, within⟩

/-- What the runs up to one more leave behind is what they left so far, and what that one leaves. -/
theorem flatMap_range'_succ {α : Type} (leaves : Nat → List α) (cycles : Nat) :
    (List.range' 1 (cycles + 1)).flatMap leaves =
      (List.range' 1 cycles).flatMap leaves ++ leaves (cycles + 1) := by
  rw [List.range'_concat, List.flatMap_append, Nat.one_mul, Nat.add_comm 1, List.flatMap_singleton]

/-- Either all chunks are granted, or the first one that is not is the last that is asked for. -/
theorem Memory.ask_cases (memory : Memory) (run size count chunk : Nat) :
    ((∀ i < count, memory.refusal? run (chunk + i) size = none) ∧
        memory.ask run size count chunk = ((List.range' chunk count).map (Prod.mk run), none)) ∨
      ∃ i < count, ∃ refusal, memory.refusal? run (chunk + i) size = some refusal ∧
        (∀ j < i, memory.refusal? run (chunk + j) size = none) ∧
        memory.ask run size count chunk =
          ((List.range' chunk (i + 1)).map (Prod.mk run), some (chunk + i, refusal)) := by
  induction count generalizing chunk with
  | zero => exact .inl ⟨nofun, rfl⟩
  | succ count ih =>
    unfold Memory.ask
    cases here : memory.refusal? run chunk size with
    | some refusal => exact .inr ⟨0, Nat.succ_pos count, refusal, here, nofun, rfl⟩
    | none =>
      -- What holds of the chunks behind this one holds of all, since this one is granted.
      have shift : ∀ limit, (∀ j < limit, memory.refusal? run (chunk + 1 + j) size = none) →
          ∀ j < limit + 1, memory.refusal? run (chunk + j) size = none := by
        intro limit granted j within
        cases j with
        | zero => exact here
        | succ j =>
          rw [Nat.add_comm j 1, ← Nat.add_assoc]
          exact granted j (Nat.lt_of_succ_lt_succ within)
      rcases ih (chunk + 1) with ⟨granted, asks⟩ | ⟨i, within, refusal, refused, granted, asks⟩
      · exact .inl ⟨shift count granted, by rw [asks, List.range'_succ]; rfl⟩
      · refine .inr ⟨i + 1, Nat.succ_lt_succ within, refusal, ?_, shift i granted, ?_⟩
        · rwa [Nat.add_comm i 1, ← Nat.add_assoc]
        · rw [asks, Nat.add_comm i 1, ← Nat.add_assoc, Nat.add_comm 1 i, List.range'_succ]
          rfl

section

variable (spec : AllocationSpec) (memory : Memory) (times : Nat → Duration)

/-- All chunks of a run are granted. -/
def AllocationSpec.Grants (run : Nat) : Prop :=
  ∀ chunk < spec.chunkCount, memory.refusal? run chunk spec.chunkSize = none

/-- The books after so many completed runs. -/
structure Books (cycles : Nat) (tally : Tally) : Prop where
  completed : tally.completed = cycles
  told : tally.told = cycles
  asked : tally.asked = (List.range' 1 cycles).flatMap (chunksOf · spec.chunkCount)
  entries : tally.entries = (List.range' 1 cycles).flatMap (runEntries spec times)
  granted : ∀ run, 1 ≤ run → run ≤ cycles → spec.Grants memory run

/-- How a stress ends that has completed so many runs: what it asks for after them, and what it
returns. -/
inductive StressEnd (cycles : Nat) : List (Nat × Nat) → Reply (Except Reasons Nat) → Prop where
  | complete (all : cycles = spec.runs) : StressEnd cycles [] (.ok (.ok spec.runs))
  | broken (left : cycles < spec.runs)
      (large : Memory.greatestSize < spec.chunkCount * AllocationSpec.tableEntrySize) :
      StressEnd cycles [] (.error Memory.capacityOverflow)
  | refused {chunk : Nat} {refusal : Refusal} (left : cycles < spec.runs)
      (there : chunk < spec.chunkCount)
      (refused : memory.refusal? (cycles + 1) chunk spec.chunkSize = some refusal)
      (before : ∀ earlier < chunk, memory.refusal? (cycles + 1) earlier spec.chunkSize = none) :
      StressEnd cycles (chunksOf (cycles + 1) (chunk + 1))
        (.ok (.error (spec.refusalReasons (cycles + 1) chunk refusal)))

/-- Empty books are balanced before the first run. -/
theorem Books.empty : Books spec memory times 0 .empty where
  completed := rfl
  told := rfl
  asked := rfl
  entries := rfl
  granted := by omega

variable {spec memory times} {cycles : Nat} {tally : Tally}

/-- A run with all its chunks granted leaves balanced books. -/
theorem Books.next (books : Books spec memory times cycles tally)
    (grants : spec.Grants memory (cycles + 1)) :
    Books spec memory times (cycles + 1)
      ⟨tally.completed + 1, tally.told + 1,
        tally.asked ++ chunksOf (cycles + 1) spec.chunkCount,
        tally.entries ++ runEntries spec times (cycles + 1)⟩ where
  completed := congrArg (· + 1) books.completed
  told := congrArg (· + 1) books.told
  asked := by rw [books.asked, flatMap_range'_succ]
  entries := by rw [books.entries, flatMap_range'_succ]
  granted := by
    intro run first last
    rcases Nat.lt_or_eq_of_le last with earlier | rfl
    · exact books.granted run first (Nat.le_of_lt_succ earlier)
    · exact grants

/-- From balanced books, the stress goes on to balanced books and one of its ends. -/
theorem Books.exists_stressEnd {count : Nat} (books : Books spec memory times cycles tally)
    (left : cycles + count = spec.runs) :
    ∃ cycles' tally' last, Books spec memory times cycles' tally' ∧
      StressEnd spec memory cycles' last
        (spec.countRuns memory times count (cycles + 1) tally).2 ∧
      (spec.countRuns memory times count (cycles + 1) tally).1 =
        { tally' with asked := tally'.asked ++ last } := by
  induction count generalizing cycles tally with
  | zero =>
    have all : cycles = spec.runs := left
    refine ⟨cycles, tally, [], books, ?_, ?_⟩
    · show StressEnd spec memory cycles [] (.ok (.ok tally.completed))
      rw [books.completed, all]
      exact .complete rfl
    · rw [List.append_nil]
      rfl
  | succ count ih =>
    by_cases large : Memory.greatestSize < spec.chunkCount * AllocationSpec.tableEntrySize
    · rw [AllocationSpec.countRuns_of_large times count tally large]
      refine ⟨cycles, tally, [], books, .broken (by omega) large, ?_⟩
      rw [List.append_nil]
    rcases memory.ask_cases (cycles + 1) spec.chunkSize spec.chunkCount 0
      with ⟨granted, asks⟩ | ⟨chunk, there, refusal, refused, before, asks⟩
    · rw [AllocationSpec.countRuns_of_granted times count tally large asks]
      have grants : spec.Grants memory (cycles + 1) := by
        intro chunk there
        simpa using granted chunk there
      exact ih (books.next grants) (by omega)
    · rw [AllocationSpec.countRuns_of_refused times count tally large asks]
      simp only [Nat.zero_add] at refused before
      rw [Nat.zero_add]
      exact ⟨cycles, tally, _, books, .refused (by omega) there refused before, rfl⟩

end

/-! ## The accounts -/

/-- The result of an allocation step, by what its stress returned: only a stress that breaks off is
a failure of the step. -/
def stepResult : Reply (Except Reasons Nat) → Except Fault Unit
  | .error panic => .error (.stepAborted "alloc" panic.message)
  | .ok _ => .ok ()

/-- How an allocation step tells of so many completed runs at its end, if it comes to its end. -/
def endEvents (cycles : Nat) (elapsed : Duration) : Reply (Except Reasons Nat) → List Event
  | .error _ => []
  | .ok _ => [.allocationFinished cycles elapsed]

/-- The numbers of an allocation step: those in its books, in what its stress returns and in what
the step publishes. -/
structure Accounted (spec : AllocationSpec) (conditions : Conditions) (tally : Tally)
    (finish : Reply (Except Reasons Nat)) (course : Course Entry (World σ) Fault Unit) : Prop where
  /-- Both counters agree, -/
  counters_agree : tally.completed = tally.told
  /-- and so does the count that the stress returns. -/
  returned : ∀ count, finish = .ok (.ok count) → count = tally.told
  /-- The step tells of its specification, then of each completed run, counted from one, and then,
  unless the stress breaks off, of their number. -/
  published : Transcript.events course.notes =
    .allocationStarted spec.runs spec.chunkCount spec.chunkSize ::
      ((List.range' 1 tally.told).map fun run => .allocationCycle run (conditions.runTime run)) ++
      endEvents tally.told conditions.stressTime finish
  /-- The step fails exactly if the stress breaks off. -/
  result : course.result = stepResult finish
  /-- All runs are completed exactly if the stress returns their number, -/
  complete_iff : tally.told = spec.runs ↔ finish = .ok (.ok spec.runs)
  /-- which it does exactly if every chunk of every run is asked for and granted. -/
  granted_iff : finish = .ok (.ok spec.runs) ↔
    ∀ run chunk, 1 ≤ run → run ≤ spec.runs → chunk < spec.chunkCount →
      (run, chunk) ∈ tally.asked ∧ conditions.memory.refusal? run chunk spec.chunkSize = none
  /-- A chunk that is asked for and refused ends the stress in its run; the failure names the run,
  the chunk and its size, and nothing is asked for in a later run. -/
  refused : ∀ run chunk refusal, (run, chunk) ∈ tally.asked →
    conditions.memory.refusal? run chunk spec.chunkSize = some refusal →
      tally.told + 1 = run ∧
        finish = .ok (.error ⟨"run " ++ toString run ++ ": allocating chunk " ++ toString chunk ++
          " of " ++ toString spec.chunkSize ++ " bytes", [refusal.reason]⟩) ∧
        ∀ pair ∈ tally.asked, pair.1 ≤ run

section

variable {spec : AllocationSpec} {conditions : Conditions} {tally : Tally}
  {finish : Reply (Except Reasons Nat)}

/-- A step ends by what its stress returned, and publishes the beginning, the entries of the books
and the end. -/
theorem countedStep_apply (went : spec.countedStress conditions = (tally, finish))
    (returned : ∀ count, finish = .ok (.ok count) → count = tally.told) (world : World σ) :
    (countedStep spec conditions world).result = stepResult finish ∧
      Transcript.events (countedStep spec conditions world).notes =
        .allocationStarted spec.runs spec.chunkCount spec.chunkSize ::
          Transcript.events tally.entries ++
            endEvents tally.told conditions.stressTime finish := by
  unfold countedStep
  rw [went]
  rcases finish with panic | reasons | count
  · refine ⟨rfl, ?_⟩
    simp [stressBegin, endEvents, Activity.fail]
  · refine ⟨rfl, ?_⟩
    simp [stressBegin, stressEnd, endEvents]
  · obtain rfl := returned count rfl
    refine ⟨rfl, ?_⟩
    simp [stressBegin, stressEnd, endEvents]

variable {cycles : Nat} {last : List (Nat × Nat)}

/-- All runs are completed exactly if the stress returns their number. -/
theorem StressEnd.complete_iff (ends : StressEnd spec conditions.memory cycles last finish) :
    cycles = spec.runs ↔ finish = .ok (.ok spec.runs) := by
  cases ends with
  | complete all => exact iff_of_true all rfl
  | broken left => exact iff_of_false (Nat.ne_of_lt left) nofun
  | refused left => exact iff_of_false (Nat.ne_of_lt left) nofun

variable (books : Books spec conditions.memory conditions.runTime cycles tally)
  (ends : StressEnd spec conditions.memory cycles last finish)

include books ends

/-- The count that the stress returns is the one that its listener has. -/
theorem Books.returned {count : Nat} (returns : finish = .ok (.ok count)) :
    count = tally.told := by
  cases ends with
  | complete all =>
    cases returns
    exact all.symm.trans books.told.symm
  | broken => cases returns
  | refused => cases returns

/-- The stress returns the number of its runs exactly if each chunk of each run is asked for and
granted. -/
theorem Books.granted_iff : finish = .ok (.ok spec.runs) ↔
    ∀ run chunk, 1 ≤ run → run ≤ spec.runs → chunk < spec.chunkCount →
      (run, chunk) ∈ tally.asked ++ last ∧
        conditions.memory.refusal? run chunk spec.chunkSize = none := by
  rw [books.asked]
  cases ends with
  | complete all =>
    refine iff_of_true rfl ?_
    intro run chunk first within there
    have within : run ≤ cycles := by omega
    refine ⟨List.mem_append_left _ ?_, books.granted run first within chunk there⟩
    exact mem_flatMap_chunksOf_iff.mpr ⟨first, within, there⟩
  | broken left large =>
    refine iff_of_false nofun ?_
    intro all
    -- A table that is too large has entries, but no chunk of the next run is asked for.
    have some_chunk : 0 < spec.chunkCount := by
      apply Nat.pos_of_ne_zero
      intro none
      rw [none, Nat.zero_mul] at large
      cases large
    have asked := (all (cycles + 1) 0 (by omega) (by omega) some_chunk).1
    rw [List.append_nil, mem_flatMap_chunksOf_iff] at asked
    omega
  | refused left there refused =>
    refine iff_of_false nofun ?_
    intro all
    have granted := (all (cycles + 1) _ (by omega) (by omega) there).2
    rw [refused] at granted
    cases granted

/-- A chunk that is asked for and refused is in the run behind the completed ones, and what was
refused is what the stress fails with. -/
theorem Books.refused_eq {run chunk : Nat} {refusal : Refusal}
    (asked : (run, chunk) ∈ tally.asked ++ last)
    (refused : conditions.memory.refusal? run chunk spec.chunkSize = some refusal) :
    cycles + 1 = run ∧ finish = .ok (.error (spec.refusalReasons run chunk refusal)) ∧
      ∀ pair ∈ tally.asked ++ last, pair.1 ≤ run := by
  rw [books.asked] at asked ⊢
  rcases List.mem_append.mp asked with before | after
  · -- All chunks of the completed runs are granted.
    obtain ⟨first, within, there⟩ := mem_flatMap_chunksOf_iff.mp before
    have granted := books.granted run first within chunk there
    rw [refused] at granted
    cases granted
  cases ends with
  | complete => cases after
  | broken => cases after
  | @refused chunk' refusal' left there refused' earlier =>
    obtain ⟨same, within⟩ := mem_chunksOf_iff.mp after
    have same : run = cycles + 1 := same
    subst same
    -- The refused chunk is the last one that is asked for.
    have last : chunk = chunk' := by
      rcases Nat.lt_or_eq_of_le (Nat.le_of_lt_succ within) with less | equal
      · have granted := earlier chunk less
        rw [refused] at granted
        cases granted
      · exact equal
    subst last
    obtain rfl := Option.some.inj (refused'.symm.trans refused)
    refine ⟨rfl, rfl, ?_⟩
    intro pair member
    rcases List.mem_append.mp member with before | after
    · have completed := (mem_flatMap_chunksOf_iff.mp before).2.1
      omega
    · exact Nat.le_of_eq (mem_chunksOf_iff.mp after).1

end

/-- The numbers of every allocation step agree, however its allocations turn out. -/
theorem allocation_step_is_accounted (config : AllocationConfig) (conditions : Conditions)
    (world : World σ) :
    let spec := conditions.allocation config
    let went := spec.countedStress conditions
    runAllocation config conditions world = countedStep spec conditions world ∧
      (spec.stress conditions.memory).1 = List.range' 1 went.1.told ∧
      went.2 = AllocationSpec.counting went.1.told (spec.stress conditions.memory).2 ∧
      Accounted spec conditions went.1 went.2 (runAllocation config conditions world) := by
  intro spec went
  have same : runAllocation config conditions world = countedStep spec conditions world :=
    congrFun (runStress_eq_countedStep spec conditions) world
  obtain ⟨told, -, finish⟩ := spec.countedStress_eq conditions
  have told : went.1.told = (spec.stress conditions.memory).1.length := told
  refine ⟨same, ?_, ?_, ?_⟩
  · rw [told]
    exact spec.stress_completed conditions.memory
  · rw [told]
    exact finish
  rw [same]
  obtain ⟨cycles, tally, last, books, ends, whole⟩ :=
    (Books.empty spec conditions.memory conditions.runTime).exists_stressEnd (Nat.zero_add spec.runs)
  have ends : StressEnd spec conditions.memory cycles last went.2 := ends
  have whole : went.1 = { tally with asked := tally.asked ++ last } := whole
  obtain ⟨result, published⟩ :=
    countedStep_apply (Prod.ext whole rfl) (fun _ => books.returned ends) world
  rw [whole]
  constructor
  case counters_agree => exact books.completed.trans books.told.symm
  case returned => exact fun _ => books.returned ends
  case published =>
    rw [published, books.entries, events_flatMap_runEntries, books.told]
  case result => exact result
  case complete_iff =>
    rw [books.told]
    exact ends.complete_iff
  case granted_iff => exact books.granted_iff ends
  case refused =>
    intro run chunk refusal asked refused
    rw [books.told]
    exact books.refused_eq ends asked refused

end BoardDiagnostics
