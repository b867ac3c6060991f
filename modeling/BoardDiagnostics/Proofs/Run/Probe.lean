import BoardDiagnostics.Capability.Probe
import BoardDiagnostics.Proofs.Activity

/-!
# When the probe breaks off

The probe makes two or three calls.  It breaks off exactly if one of them does; a clock that the
board refuses is not among the reasons.
-/

set_option autoImplicit false

namespace BoardDiagnostics

variable {σ : Type}

/-- A call of the probe breaks off with this panic, after the calls before it were answered. -/
inductive ProbeBreaks (board : Board σ) (mhz : Nat) (start : σ) (panic : Panic) : Prop where
  | silicon (broke : (board.silicon start).1 = .error panic)
  | clock {silicon : Silicon} (read : (board.silicon start).1 = .ok silicon)
      (native : silicon.native = true)
      (broke : (board.setFrequency mhz (board.silicon start).2).1 = .error panic)
  | physicalFrequency {silicon : Silicon} {answer : Except Fault Unit}
      (read : (board.silicon start).1 = .ok silicon) (native : silicon.native = true)
      (asked : (board.setFrequency mhz (board.silicon start).2).1 = .ok answer)
      (broke : (board.frequency (board.setFrequency mhz (board.silicon start).2).2).1 =
        .error panic)
  | emulatedFrequency {silicon : Silicon} (read : (board.silicon start).1 = .ok silicon)
      (emulated : silicon.native = false)
      (broke : (board.frequency (board.silicon start).2).1 = .error panic)

/-- The end of a probe once the clock is read, or is not. -/
def Capabilities.afterClock (environment : Environment) (silicon : Silicon) (reply : Reply Nat) :
    Reply Capabilities :=
  reply.map fun hz => ⟨environment, silicon.family, hz, silicon.model⟩

namespace Work

variable {α β : Type} {request : σ → Reply α × σ} (record : Reply α → Call) {s : σ}

/-- An answered request hands on its answer, in the state it leaves, and its call stands in front.
-/
theorem ask_bind_apply {a : α} (answered : (request s).1 = .ok a) (next : α → Work σ β) :
    (ask request record >>= next) s =
      ⟨(next a (request s).2).result, (next a (request s).2).state,
        .call (record (.ok a)) :: (next a (request s).2).notes⟩ := by
  have ends : (ask request record s).result = .ok a := answered
  rw [Activity.bind_of_ok ends, ← answered]
  rfl

/-- A request in which the board panics ends the work there. -/
theorem ask_bind_apply_of_error {panic : Panic} (broke : (request s).1 = .error panic)
    (next : α → Work σ β) :
    (ask request record >>= next) s =
      ⟨.error panic, (request s).2, [.call (record (.error panic))]⟩ := by
  have fails : (ask request record s).result = .error panic := broke
  rw [Activity.bind_of_error fails, ← broke]
  rfl

/-- Work goes on from an answer to its result. -/
theorem ask_bind_of_ok {a : α} (answered : (request s).1 = .ok a) (next : α → Work σ β) :
    ((ask request record >>= next) s).result = (next a (request s).2).result := by
  rw [ask_bind_apply record answered]

/-- Work in which the board panics has that panic as its result. -/
theorem ask_bind_of_error {panic : Panic} (broke : (request s).1 = .error panic)
    (next : α → Work σ β) : ((ask request record >>= next) s).result = .error panic := by
  rw [ask_bind_apply_of_error record broke]

end Work

namespace Capabilities

variable (board : Board σ) (config : Config) {start : σ}

/-- A probe breaks if the board panics when it is asked what it is. -/
theorem probe_of_panic {panic : Panic} (broke : (board.silicon start).1 = .error panic) :
    (probe board config start).result = .error panic :=
  Work.ask_bind_of_error _ broke _

variable {silicon : Silicon} (read : (board.silicon start).1 = .ok silicon)

include read

/-- On an emulated board, the clock that is read decides the probe. -/
theorem probe_of_emulated (emulated : silicon.native = false) :
    (probe board config start).result =
      afterClock .emulated silicon (board.frequency (board.silicon start).2).1 := by
  unfold probe Board.readSilicon
  rw [Work.ask_bind_of_ok _ read, emulated, if_neg Bool.false_ne_true]
  unfold Board.readFrequency afterClock
  rcases clock : (board.frequency (board.silicon start).2).1 with panic | hz
  · rw [Work.ask_bind_of_error _ clock]
    rfl
  · rw [Work.ask_bind_of_ok _ clock]
    rfl

variable (native : silicon.native = true)

include native

/-- A probe of hardware breaks if the board panics when its clock is to be changed. -/
theorem probe_of_clock_panic {panic : Panic}
    (broke : (board.setFrequency config.targetCpuMhz.toNat (board.silicon start).2).1 =
      .error panic) : (probe board config start).result = .error panic := by
  unfold probe Board.readSilicon
  rw [Work.ask_bind_of_ok _ read, native, if_pos rfl]
  exact Work.ask_bind_of_error _ broke _

/-- Whatever the board answers to the request for a clock, the probe goes on to read the clock. -/
theorem probe_of_clock {answer : Except Fault Unit}
    (asked : (board.setFrequency config.targetCpuMhz.toNat (board.silicon start).2).1 =
      .ok answer) :
    (probe board config start).result =
      afterClock .physical silicon (board.frequency
        (board.setFrequency config.targetCpuMhz.toNat (board.silicon start).2).2).1 := by
  unfold probe Board.readSilicon Board.requestFrequency
  rw [Work.ask_bind_of_ok _ read, native, if_pos rfl, Work.ask_bind_of_ok _ asked]
  unfold afterClock
  rcases clock : (board.frequency
    (board.setFrequency config.targetCpuMhz.toNat (board.silicon start).2).2).1 with panic | hz
  · rcases answer with fault | ⟨⟩
    · exact Work.ask_bind_of_error _ clock _
    · exact Work.ask_bind_of_error _ clock _
  · rcases answer with fault | ⟨⟩
    · exact Work.ask_bind_of_ok _ clock _
    · exact Work.ask_bind_of_ok _ clock _

omit read native

/-- Behind the request for the clock, only the reading of it can break the probe. -/
theorem afterClock_eq_error_iff {environment : Environment} {reply : Reply Nat} {panic : Panic} :
    afterClock environment silicon reply = .error panic ↔ reply = .error panic := by
  rcases reply with cause | hz
  · simp [afterClock, Except.map]
  · simp [afterClock, Except.map]

/-- A probe breaks exactly if one of its requests does. -/
theorem probe_eq_error_iff (start : σ) (panic : Panic) :
    (probe board config start).result = .error panic ↔
      ProbeBreaks board config.targetCpuMhz.toNat start panic := by
  constructor
  · intro broke
    rcases read : (board.silicon start).1 with cause | silicon
    · rw [probe_of_panic board config read] at broke
      obtain rfl := Except.error.inj broke
      exact .silicon read
    cases native : silicon.native with
    | false =>
      rw [probe_of_emulated board config read native, afterClock_eq_error_iff] at broke
      exact .emulatedFrequency read native broke
    | true =>
      rcases asked : (board.setFrequency config.targetCpuMhz.toNat (board.silicon start).2).1
        with cause | answer
      · rw [probe_of_clock_panic board config read native asked] at broke
        obtain rfl := Except.error.inj broke
        exact .clock read native asked
      · rw [probe_of_clock board config read native asked, afterClock_eq_error_iff] at broke
        exact .physicalFrequency read native asked broke
  · intro breaks
    cases breaks with
    | silicon broke => exact probe_of_panic board config broke
    | clock read native broke => exact probe_of_clock_panic board config read native broke
    | physicalFrequency read native asked broke =>
      rw [probe_of_clock board config read native asked]
      exact afterClock_eq_error_iff.mpr broke
    | emulatedFrequency read emulated broke =>
      rw [probe_of_emulated board config read emulated]
      exact afterClock_eq_error_iff.mpr broke

end Capabilities

end BoardDiagnostics
