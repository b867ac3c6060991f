import BoardDiagnostics.Panic

/-!
# Memory

What a machine can hold.  No single object is larger than half the address space: a container
that is asked to reserve more breaks off.  Below that limit a machine may still have no memory.
A chunk that work asks for is then refused, which is an answer and not a panic; what it demands,
without asking, it cannot do without, and its process is aborted.
-/

set_option autoImplicit false

namespace BoardDiagnostics

namespace Memory

/-- The greatest size of a single object. -/
def greatestSize : Nat := 0x7fffffffffffffff

/-- The panic of a container that is asked to reserve more than the greatest size. -/
def capacityOverflow : Panic := .text "capacity overflow"

end Memory

/-- The memory of a machine. -/
structure Memory where
  /-- Whether it grants a chunk of some size in a run. -/
  grants : (run chunk size : Nat) → Bool
  /-- Whether it meets the demand of a number for so much memory. -/
  meets : (demand size : Nat) → Bool

/-- Why a chunk was not granted. -/
inductive Refusal where
  /-- No object is as large as that. -/
  | beyondSizes
  /-- The machine has no memory for it. -/
  | noMemory
  deriving DecidableEq, Repr

/-- The reason that a refusal gives. -/
def Refusal.reason : Refusal → String
  | beyondSizes =>
    "memory allocation failed because the computed capacity exceeded the collection's maximum"
  | noMemory => "memory allocation failed because the memory allocator returned an error"

namespace Memory

/-- A machine that has memory for whatever fits an address space of so many bits. -/
def addressed (bits : Nat) : Memory :=
  ⟨fun _ _ size => size < 1 <<< bits, fun _ size => size < 1 <<< bits⟩

/-- A machine that has memory for whatever is an object at all. -/
def boundless : Memory := ⟨fun _ _ _ => true, fun _ _ => true⟩

/-- Ask for a chunk; an empty one takes no memory. -/
def refusal? (memory : Memory) (run chunk size : Nat) : Option Refusal :=
  if size = 0 then none
  else if greatestSize < size then some .beyondSizes
  else if memory.grants run chunk size then none
  else some .noMemory

/-- Ask for so many chunks, beginning with the chunk of a number: the first refusal. -/
def firstRefusal? (memory : Memory) (run size : Nat) : Nat → Nat → Option (Nat × Refusal)
  | 0, _ => none
  | count + 1, chunk =>
    match memory.refusal? run chunk size with
    | some refusal => some (chunk, refusal)
    | none => firstRefusal? memory run size count (chunk + 1)

/-- Demand memory, under a number; nothing takes no memory. -/
def demand (memory : Memory) (number size : Nat) : Ending Unit :=
  if size = 0 then .ok ()
  else if greatestSize < size then .error (.panic capacityOverflow)
  else if memory.meets number size then .ok ()
  else .error .abort

/-- A demand panics exactly if it is beyond the greatest size. -/
theorem demand_eq_panic_iff (memory : Memory) (number size : Nat) (panic : Panic) :
    memory.demand number size = .error (.panic panic) ↔
      greatestSize < size ∧ panic = capacityOverflow := by
  unfold demand
  grind

/-- A demand aborts the process exactly if there is no memory for a size that an object may have. -/
theorem demand_eq_abort_iff (memory : Memory) (number size : Nat) :
    memory.demand number size = .error .abort ↔
      size ≠ 0 ∧ size ≤ greatestSize ∧ memory.meets number size = false := by
  unfold demand
  grind

/-- A demand is met exactly if an object may have its size and there is memory for it. -/
theorem demand_eq_ok_iff (memory : Memory) (number size : Nat) :
    memory.demand number size = .ok () ↔
      size ≤ greatestSize ∧ (size ≠ 0 → memory.meets number size = true) := by
  unfold demand
  grind

/-- What is met anywhere is met on a machine that never runs out. -/
theorem demand_boundless_of_ok {memory : Memory} {number size : Nat}
    (met : memory.demand number size = .ok ()) : boundless.demand number size = .ok () := by
  obtain ⟨fits, -⟩ := (memory.demand_eq_ok_iff number size).mp met
  exact (boundless.demand_eq_ok_iff number size).mpr ⟨fits, fun _ => rfl⟩

/-- What is too large anywhere is too large on a machine that never runs out. -/
theorem demand_boundless_of_panic {memory : Memory} {number size : Nat} {panic : Panic}
    (broke : memory.demand number size = .error (.panic panic)) :
    boundless.demand number size = .error (.panic panic) := by
  rw [demand_eq_panic_iff] at broke ⊢
  exact broke

/-- A machine that never runs out aborts nothing. -/
theorem demand_boundless_ne_abort (number size : Nat) :
    boundless.demand number size ≠ .error .abort := by
  rw [Ne, demand_eq_abort_iff]
  exact fun refused => absurd refused.2.2 nofun

end Memory

end BoardDiagnostics
