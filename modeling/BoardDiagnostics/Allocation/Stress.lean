import BoardDiagnostics.Allocation.Spec
import BoardDiagnostics.Checks.Result
import BoardDiagnostics.Duration
import BoardDiagnostics.Memory

/-!
# The allocation stress

Fill memory chunk by chunk and free it again, run after run.  A chunk that the machine has no
memory for ends the stress with a failure; a table of chunks that is beyond all memory breaks it
off.  The table itself is not asked for but demanded, in each run anew: an attempt at the stress is
aborted by the first table that the machine has no memory for.
-/

set_option autoImplicit false

namespace BoardDiagnostics

namespace AllocationSpec

/-- The size of an entry in the table of chunks. -/
def tableEntrySize : Nat := 24

/-- The size of the table of chunks. -/
def tableSize (spec : AllocationSpec) : Nat := spec.chunkCount * tableEntrySize

/-- One run in a process that is not aborted: nothing if it is completed, otherwise how it ends. -/
def runEnd? (spec : AllocationSpec) (memory : Memory) (run : Nat) : Option (Reply Reasons) :=
  if Memory.greatestSize < spec.chunkCount * tableEntrySize then
    some (.error Memory.capacityOverflow)
  else
    match memory.firstRefusal? run spec.chunkSize spec.chunkCount 0 with
    | none => none
    | some (chunk, refusal) =>
      some (.ok ((Reasons.of refusal.reason).within
        ("run " ++ toString run ++ ": allocating chunk " ++ toString chunk ++ " of " ++
          toString spec.chunkSize ++ " bytes")))

/-- So many runs, beginning with the run of a number: the runs that are completed, and how the
stress ends. -/
def stressFrom (spec : AllocationSpec) (memory : Memory) :
    Nat → Nat → List Nat × Reply CheckResult
  | 0, _ => ([], .ok (.ok ()))
  | count + 1, run =>
    match spec.runEnd? memory run with
    | none =>
      let (completed, finish) := stressFrom spec memory count (run + 1)
      (run :: completed, finish)
    | some finish => ([], finish.map .error)

/-- The whole stress in a process that is not aborted. -/
def stress (spec : AllocationSpec) (memory : Memory) : List Nat × Reply CheckResult :=
  stressFrom spec memory spec.runs 1

/-- One run whose table is demanded under its number: nothing if it is completed, otherwise how it
ends. -/
def runEnding? (spec : AllocationSpec) (memory : Memory) (run : Nat) : Option (Ending Reasons) :=
  match memory.demand run spec.tableSize with
  | .error breakoff => some (.error breakoff)
  | .ok () => (spec.runEnd? memory run).map Ending.ofReply

/-- So many attempted runs, beginning with the run of a number: the runs that are completed, and how
the attempt ends. -/
def attemptFrom (spec : AllocationSpec) (memory : Memory) :
    Nat → Nat → List Nat × Ending CheckResult
  | 0, _ => ([], .ok (.ok ()))
  | count + 1, run =>
    match spec.runEnding? memory run with
    | none =>
      let (completed, ending) := attemptFrom spec memory count (run + 1)
      (run :: completed, ending)
    | some ending => ([], ending.map .error)

/-- An attempt at the whole stress with the memory that there is. -/
def attempt (spec : AllocationSpec) (memory : Memory) : List Nat × Ending CheckResult :=
  attemptFrom spec memory spec.runs 1

/-- The line about a completed run. -/
def runText (spec : AllocationSpec) (run : Nat) (elapsed : Duration) : String :=
  "alloc run " ++ toString run ++ "/" ++ toString spec.runs ++ ": " ++
    toString spec.chunkCount ++ " chunks of " ++ toString spec.chunkSize ++ " bytes (" ++
    toString spec.totalBytes ++ " bytes) in " ++ elapsed.text

end AllocationSpec

end BoardDiagnostics
