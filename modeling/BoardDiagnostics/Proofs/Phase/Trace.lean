import BoardDiagnostics.Proofs.Phase.Outcome
import Mathlib.Data.List.Induction
import Mathlib.Data.List.Perm.Subperm

/-!
# Phases seen from outside

What the rest of a run needs to know of a concurrent phase: the words that it can publish
(`ConcurrentTrace`), when it fails (`BreaksFirst`), and that a phase that is released leaves no
unit behind.
-/

set_option autoImplicit false

namespace BoardDiagnostics

variable {σ α : Type}

/-- What a concurrent phase with units of these names publishes, by its result: all launches,
then either all completions and the release, or completions up to the first unit that broke
off. -/
inductive ConcurrentTrace (names : List String) (elapsed : Duration) :
    Except Fault Nat → List Event → Prop where
  | released {signals : List Signal} (all : (signals.map Signal.name).Perm names)
      (sane : ∀ s ∈ signals, s.outcome.isAborted = false) :
      ConcurrentTrace names elapsed (.ok names.length)
        (launches names ++ completions signals ++ [.concurrentReleased names.length elapsed])
  | aborted {earlier : List Signal} {last : Signal} {reason : String}
      (once : ((earlier ++ [last]).map Signal.name).Subperm names)
      (sane : ∀ s ∈ earlier, s.outcome.isAborted = false)
      (broke : last.outcome = .aborted reason) :
      ConcurrentTrace names elapsed (.error (.checkAborted last.name reason))
        (launches names ++ completions (earlier ++ [last]))

/-- All launches come first. -/
theorem ConcurrentTrace.exists_launches {names : List String} {elapsed : Duration}
    {result : Except Fault Nat} {events : List Event}
    (trace : ConcurrentTrace names elapsed result events) :
    ∃ more, events = launches names ++ more := by
  cases trace with
  | released => exact ⟨_, List.append_assoc _ _ _⟩
  | aborted => exact ⟨_, rfl⟩

/-- A unit of this name broke off in this way, and no unit that broke off signalled before it. -/
def BreaksFirst (units : List (CheckUnit σ)) (schedule : List Pick) (times : PhaseTimes)
    (world : World σ) (name : String) (panic : Panic) : Prop :=
  ∃ n signal, (Phase.allSignals units schedule times world).find? (fun s => s.2.outcome.isAborted) =
      some (n, signal) ∧
    signal.name = name ∧ (n, .error panic) ∈ Phase.allBodyEnds units schedule times world

/-- The first signal of a unit that broke off is the one with only sane signals before it. -/
theorem find?_isAborted_eq {sent earlier later : List (Nat × Signal)} {last : Nat × Signal}
    {reason : String} (order : sent = earlier ++ last :: later)
    (sane : ∀ s ∈ earlier, s.2.outcome.isAborted = false)
    (broke : last.2.outcome = .aborted reason) :
    sent.find? (fun s => s.2.outcome.isAborted) = some last := by
  rw [List.find?_eq_some_iff_append]
  refine ⟨by rw [broke]; rfl, earlier, later, order, ?_⟩
  intro s member
  rw [sane s member]
  rfl

/-! ### Names by number -/

/-- Looking up all numbers of a list gives the list. -/
theorem filterMap_getElem?_range (names : List α) :
    (List.range names.length).filterMap (fun n => names[n]?) = names := by
  induction names using List.reverseRecOn with
  | nil => rfl
  | append_singleton names name ih =>
    have same : (List.range names.length).filterMap (fun n => (names ++ [name])[n]?) =
        (List.range names.length).filterMap (fun n => names[n]?) := by
      apply List.filterMap_congr
      intro n member
      exact List.getElem?_append_left (List.mem_range.mp member)
    rw [List.length_append, List.length_singleton, List.range_succ, List.filterMap_append, same,
      ih]
    simp

/-- Entries that are named by their numbers are named in their own order. -/
theorem map_eq_filterMap_getElem? {β : Type} {names : List α} {entries : List (Nat × β)}
    {name : β → α} (named : ∀ s ∈ entries, names[s.1]? = some (name s.2)) :
    (entries.map Prod.snd).map name =
      (entries.map Prod.fst).filterMap (fun n => names[n]?) := by
  induction entries with
  | nil => rfl
  | cons entry entries ih =>
    rw [List.map_cons, List.map_cons, List.map_cons, List.filterMap_cons_some (named entry (by simp)),
      ih fun s member => named s (List.mem_cons_of_mem entry member)]

namespace Phase.Account

variable {units : List (CheckUnit σ)} {times : PhaseTimes} {phase : Phase σ} {events : List Event}
  {sent : List (Nat × Signal)} {ended : List (Nat × Reply CheckResult)}

/-- A signal carries the name of the unit that sent it. -/
theorem name_of_mem_sent (account : phase.Account units times events sent ended)
    {s : Nat × Signal} (sends : s ∈ sent) :
    (units.map CheckUnit.name)[s.1]? = some s.2.name := by
  obtain ⟨unit, reply, here, -, told⟩ := account.of_mem_sent sends
  rw [List.getElem?_map, here, told]
  rfl

/-- The units that signalled are some of all units, each taken once. -/
theorem names_subperm (account : phase.Account units times events sent ended) :
    ((sent.map Prod.snd).map Signal.name).Subperm (units.map CheckUnit.name) := by
  have among : (sent.map Prod.fst).Subperm (List.range units.length) := by
    apply List.subperm_of_subset account.nodup_sent
    intro n member
    obtain ⟨s, sends, rfl⟩ := List.mem_map.mp member
    have here := account.name_of_mem_sent sends
    have within := (List.getElem?_eq_some_iff.mp here).1
    rw [List.length_map] at within
    exact List.mem_range.mpr within
  obtain ⟨order, same, sub⟩ := among
  rw [map_eq_filterMap_getElem? fun s sends => account.name_of_mem_sent sends]
  have all := filterMap_getElem?_range (units.map CheckUnit.name)
  rw [List.length_map] at all
  have ordered := sub.filterMap fun n => (units.map CheckUnit.name)[n]?
  rw [all] at ordered
  exact ⟨_, same.filterMap _, ordered⟩

/-- A phase that is released leaves no unit at work. -/
theorem leftover_of_released (account : phase.Account units times events sent ended) {count : Nat}
    (released : phase.result? = some (.ok count)) : phase.leftover = [] := by
  obtain ⟨-, -, idle⟩ := account.over_of_received (account.received_of_released released)
  rw [Phase.leftover, List.filter_eq_nil_iff]
  intro task member
  obtain ⟨n, here⟩ := List.mem_iff_getElem?.mp member
  simp [idle n task here]

end Phase.Account

/-! ### Who strays -/

namespace World

/-- Strays come and go with batteries, not with the steps that they take. -/
theorem map_unit_advanceStray (world : World σ) (n : Nat) :
    (world.advanceStray n).1.strays.map Task.unit = world.strays.map Task.unit := by
  unfold advanceStray
  split
  · rfl
  · next task here => exact map_unit_set_advance here world.board

/-- Strays at work remain strays of the same units. -/
theorem map_unit_advanceStrays (world : World σ) (numbers : List Nat) :
    (world.advanceStrays numbers).1.strays.map Task.unit = world.strays.map Task.unit := by
  induction numbers generalizing world with
  | nil => rfl
  | cons number rest ih => rw [advanceStrays_cons, ih, map_unit_advanceStray]

end World

namespace Phase

/-- A step of a phase leaves the strays those of the same units. -/
theorem map_unit_strays_step (times : PhaseTimes) (phase : Phase σ) (pick : Pick) :
    (phase.step times pick).1.world.strays.map Task.unit =
      phase.world.strays.map Task.unit := by
  cases pick with
  | runner =>
    show (phase.stepRunner times).1.world.strays.map Task.unit = _
    rw [(stepRunner_frame times phase).1]
  | unit n =>
    show (phase.stepUnit n).1.world.strays.map Task.unit = _
    unfold stepUnit
    split <;> rfl
  | stray n => exact phase.world.map_unit_advanceStray n

/-- A whole phase leaves the strays those of the same units. -/
theorem map_unit_strays_run (times : PhaseTimes) (phase : Phase σ) (picks : List Pick) :
    (phase.run times picks).1.world.strays.map Task.unit =
      phase.world.strays.map Task.unit := by
  induction picks generalizing phase with
  | nil => rfl
  | cons pick picks ih =>
    cases returned : phase.result? with
    | some result => rw [run_of_returned returned]
    | none => rw [run_cons returned, ih, map_unit_strays_step]

end Phase

section

variable (units : List (CheckUnit σ)) (schedule : List Pick) (times : PhaseTimes) (world : World σ)

/-- Every phase publishes one of the words that are allowed for its result. -/
theorem runConcurrent_trace :
    ConcurrentTrace (units.map CheckUnit.name) times.phase
      (runConcurrent units schedule times world).result
      (Transcript.events (runConcurrent units schedule times world).notes) := by
  have account := Phase.account_final units times schedule world
  have returned := Phase.result?_final units times schedule world
  have among := account.names_subperm
  rcases result : (runConcurrent units schedule times world).result with fault | count
  · rw [result] at returned
    obtain ⟨earlier, last, later, panic, order, sane, -, broke, rfl, published⟩ :=
      account.of_failed returned
    rw [published, List.map_append]
    rw [order, ← List.singleton_append, ← List.append_assoc, List.map_append, List.map_append,
      List.map_append] at among
    refine .aborted ?_ ?_ broke
    · exact (List.sublist_append_left _ _).subperm.trans among
    · intro s member
      obtain ⟨entry, here, rfl⟩ := List.mem_map.mp member
      exact sane entry here
  · rw [result] at returned
    obtain ⟨rfl, all, -, sane, published⟩ := account.of_released returned
    rw [published]
    have count : units.length = (units.map CheckUnit.name).length := List.length_map _ |>.symm
    rw [count]
    refine .released ?_ ?_
    · apply among.perm_of_length_le
      have := all.length_eq
      simp only [List.length_map, List.length_range] at this ⊢
      omega
    · intro s member
      obtain ⟨entry, here, rfl⟩ := List.mem_map.mp member
      exact sane entry here

/-- A phase fails exactly if a unit breaks off, and with the first that does. -/
theorem runConcurrent_eq_error_iff (fault : Fault) :
    (runConcurrent units schedule times world).result = .error fault ↔
      ∃ name panic, BreaksFirst units schedule times world name panic ∧
        fault = .checkAborted name panic.message := by
  have account := Phase.account_final units times schedule world
  have returned := Phase.result?_final units times schedule world
  constructor
  · intro failed
    rw [failed] at returned
    obtain ⟨earlier, last, later, panic, order, sane, ends, broke, rfl, -⟩ :=
      account.of_failed returned
    have first := find?_isAborted_eq order sane broke
    exact ⟨last.2.name, panic, ⟨last.1, last.2, first, rfl, ends⟩, rfl⟩
  · rintro ⟨name, panic, ⟨n, signal, first, rfl, ends⟩, rfl⟩
    rcases result : (runConcurrent units schedule times world).result with fault | count
    · rw [result] at returned
      obtain ⟨earlier, last, later, panic', order, sane, ends', broke, rfl, -⟩ :=
        account.of_failed returned
      rw [find?_isAborted_eq order sane broke] at first
      obtain rfl := Option.some.inj first
      have same := List.inj_on_of_nodup_map account.nodup_ended ends ends' rfl
      cases same
      rfl
    · rw [result] at returned
      obtain ⟨-, -, sane, -⟩ := account.of_released returned
      exact absurd ends (sane n panic)

/-- A phase that is released in a world without strays leaves such a world. -/
theorem strays_runConcurrent (calm : world.strays = []) {count : Nat}
    (released : (runConcurrent units schedule times world).result = .ok count) :
    (runConcurrent units schedule times world).state.strays = [] := by
  have account := Phase.account_final units times schedule world
  have returned := Phase.result?_final units times schedule world
  rw [released] at returned
  have kept := Phase.map_unit_strays_run times (Phase.start units world)
    (schedule ++ Phase.finishing units.length)
  have start : (Phase.start units world).world.strays = [] := calm
  rw [start] at kept
  show (Phase.final units schedule times world).world.strays ++
    (Phase.final units schedule times world).leftover = []
  rw [account.leftover_of_released returned, List.append_nil]
  exact List.map_eq_nil_iff.mp kept

end

end BoardDiagnostics
