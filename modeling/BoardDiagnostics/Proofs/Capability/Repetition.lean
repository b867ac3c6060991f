import BoardDiagnostics.Board.Scripted
import BoardDiagnostics.Proofs.Gates.Permission
import BoardDiagnostics.Proofs.Run.Probe
import BoardDiagnostics.Random.Uniform

/-!
# Probing again

A steady board has one identity, which it may fail to tell at times, and does the same with every
request for a clock (`SteadyBoard`).  One probe of it goes one of five ways (`SteadyProbe`) and
leaves a clock with which the next probe goes the same way (`steadyProbe_probe`), as a second
request changes nothing more (`ClockHabit.clockAfter_clockAfter`).  The main statement,
`probing_is_repeatable`, is what this comes to over any number of probes: one record, one request
for each probe of the physical part, and a warning for a refusal, which is all that tells it from a
request that is ignored.
-/

set_option autoImplicit false

namespace BoardDiagnostics

variable {σ : Type}

/-! ### Steady boards -/

/-- What a board does with every request for a clock. -/
inductive ClockHabit where
  /-- It takes the clock over. -/
  | grants
  /-- It claims success and keeps its clock. -/
  | ignores
  /-- It refuses and keeps its clock. -/
  | refuses
  /-- It breaks off. -/
  | breaks
  deriving DecidableEq

namespace ClockHabit

/-- The reply to a request for so many megahertz, and the clock after it. -/
inductive Acts (mhz hz : Nat) : ClockHabit → Reply (Except Fault Unit) → Nat → Prop where
  | grants : Acts mhz hz .grants (.ok (.ok ())) (mhz * 1000000)
  | ignores : Acts mhz hz .ignores (.ok (.ok ())) hz
  | refuses {fault : Fault} : Acts mhz hz .refuses (.ok (.error fault)) hz
  | breaks {panic : Panic} {after : Nat} : Acts mhz hz .breaks (.error panic) after

/-- The clock that a probe finds after its request, if it makes one. -/
def clockAfter (mhz hz : Nat) (native : Bool) : ClockHabit → Nat
  | grants => if native then mhz * 1000000 else hz
  | ignores | refuses | breaks => hz

/-- Only a native board that grants the request has a new clock after it. -/
theorem clockAfter_eq_ite (mhz hz : Nat) (native : Bool) (habit : ClockHabit) :
    habit.clockAfter mhz hz native =
      if native = true ∧ habit = .grants then mhz * 1000000 else hz := by
  cases habit with
  | grants => simp [clockAfter]
  | _ => simp [clockAfter]

/-- A second request changes nothing more. -/
@[simp] theorem clockAfter_clockAfter (mhz hz : Nat) (native : Bool) (habit : ClockHabit) :
    habit.clockAfter mhz (habit.clockAfter mhz hz native) native = habit.clockAfter mhz hz native := by
  cases habit with
  | grants =>
    cases native with
    | false => rfl
    | true => rfl
  | _ => rfl

/-- The clock of an emulated board is never set. -/
theorem clockAfter_of_emulated (mhz hz : Nat) (habit : ClockHabit) :
    habit.clockAfter mhz hz false = hz := by
  cases habit with
  | _ => rfl

/-- The board answers a request unless its habit is to break off, and has the clock that is due
then. -/
theorem Acts.of_answer {mhz hz after : Nat} {habit : ClockHabit} {answer : Except Fault Unit}
    (acts : habit.Acts mhz hz (.ok answer) after) :
    habit ≠ .breaks ∧ after = habit.clockAfter mhz hz true := by
  cases acts with
  | _ => exact ⟨nofun, rfl⟩

end ClockHabit

/-- A board of one identity and one habit, the clock of which changes with requests only.  Its clock
can always be read; its identity may fail to be. -/
structure SteadyBoard (board : Board σ) (clock : σ → Nat) (silicon : Silicon)
    (habit : ClockHabit) : Prop where
  identity : ∀ s, (board.silicon s).1 = .ok silicon ∨ ∃ panic, (board.silicon s).1 = .error panic
  clock_silicon : ∀ s, clock (board.silicon s).2 = clock s
  frequency : ∀ s, (board.frequency s).1 = .ok (clock s)
  clock_frequency : ∀ s, clock (board.frequency s).2 = clock s
  setFrequency : ∀ mhz s, habit.Acts mhz (clock s) (board.setFrequency mhz s).1
    (clock (board.setFrequency mhz s).2)

/-- What a scripted board does with requests for a clock. -/
def Script.habit (script : Script) : ClockHabit :=
  match script.clock with
  | .ignores => .ignores
  | .acts (.ok (.ok ())) => .grants
  | .acts (.ok (.error _)) => .refuses
  | .acts (.error _) => .breaks

/-- A scripted board is steady: its identity and its clock habit never change. -/
theorem Script.steady (script : Script) :
    SteadyBoard script.board Position.frequencyHz script.silicon script.habit where
  identity position := by
    have answers : (script.board.silicon position).1 =
        (nextAction position.siliconActions).1.map fun _ => script.silicon := rfl
    rw [answers]
    rcases (nextAction position.siliconActions).1 with panic | result
    · exact .inr ⟨panic, rfl⟩
    · exact .inl rfl
  clock_silicon _ := rfl
  frequency _ := rfl
  clock_frequency _ := rfl
  setFrequency mhz position := by
    unfold board habit
    rcases script.clock with ⟨panic | fault | ⟨⟩⟩ | _
    · exact .breaks
    · exact .refuses
    · exact .grants
    · exact .ignores

/-! ### One probe -/

namespace Capabilities

/-- The warnings about the answer to a request for a clock. -/
def warnings : Except Fault Unit → List Note
  | .ok () => []
  | .error fault => [.line (clockWarning fault)]

/-- What a probe of the physical part does once it has an answer to its request. -/
def recordPhysical (board : Board σ) (silicon : Silicon) : Work σ Capabilities := do
  let frequencyHz ← board.readFrequency
  let caps : Capabilities := ⟨.physical, silicon.family, frequencyHz, silicon.model⟩
  Work.say (identityLine silicon caps)
  pure caps

/-- On physical hardware, the record is made of the identity and the clock that is read, and a line
tells of it. -/
theorem recordPhysical_apply {board : Board σ} {s : σ} {hz : Nat}
    (clock : (board.frequency s).1 = .ok hz) (silicon : Silicon) :
    recordPhysical board silicon s =
      ⟨.ok ⟨.physical, silicon.family, hz, silicon.model⟩, (board.frequency s).2,
        [.call (.frequency (.ok hz)),
          .line (identityLine silicon ⟨.physical, silicon.family, hz, silicon.model⟩)]⟩ := by
  unfold recordPhysical Board.readFrequency
  rw [Work.ask_bind_apply _ clock]
  rfl

section

variable (board : Board σ) (config : Config) {s : σ}

/-- A board that breaks off when it is asked for its identity breaks the probe off. -/
theorem probe_apply_of_panic {panic : Panic} (broke : (board.silicon s).1 = .error panic) :
    probe board config s =
      ⟨.error panic, (board.silicon s).2, [.call (.silicon (.error panic))]⟩ :=
  Work.ask_bind_apply_of_error _ broke _

variable {silicon : Silicon} (read : (board.silicon s).1 = .ok silicon) {hz : Nat}

include read

/-- An emulated board is asked for its identity and its clock, and for nothing else. -/
theorem probe_apply_of_emulated (emulated : silicon.native = false)
    (clock : (board.frequency (board.silicon s).2).1 = .ok hz) :
    probe board config s =
      ⟨.ok ⟨.emulated, silicon.family, hz, silicon.model⟩,
        (board.frequency (board.silicon s).2).2,
        [.call (.silicon (.ok silicon)), .call (.frequency (.ok hz))]⟩ := by
  unfold probe Board.readSilicon Board.readFrequency
  rw [Work.ask_bind_apply _ read, emulated, if_neg Bool.false_ne_true,
    Work.ask_bind_apply _ clock]
  rfl

variable (native : silicon.native = true)

include native

/-- A board that breaks off when its clock is to be set breaks the probe off. -/
theorem probe_apply_of_clock_panic {panic : Panic}
    (broke : (board.setFrequency config.targetCpuMhz.toNat (board.silicon s).2).1 =
      .error panic) :
    probe board config s =
      ⟨.error panic, (board.setFrequency config.targetCpuMhz.toNat (board.silicon s).2).2,
        [.call (.silicon (.ok silicon)),
          .call (.setFrequency config.targetCpuMhz.toNat (.error panic))]⟩ := by
  unfold probe Board.readSilicon Board.requestFrequency
  rw [Work.ask_bind_apply _ read, native, if_pos rfl, Work.ask_bind_apply_of_error _ broke]

/-- Whatever the answer to the request, the clock is read next; a refusal is warned of before
that. -/
theorem probe_apply_of_clock {answer : Except Fault Unit} {next : σ}
    (asked : board.setFrequency config.targetCpuMhz.toNat (board.silicon s).2 = (.ok answer, next))
    (clock : (board.frequency next).1 = .ok hz) :
    probe board config s =
      ⟨.ok ⟨.physical, silicon.family, hz, silicon.model⟩, (board.frequency next).2,
        .call (.silicon (.ok silicon)) ::
          .call (.setFrequency config.targetCpuMhz.toNat (.ok answer)) :: warnings answer ++
          [.call (.frequency (.ok hz)),
            .line (identityLine silicon ⟨.physical, silicon.family, hz, silicon.model⟩)]⟩ := by
  have behind : ∀ notes : List Note,
      (⟨(recordPhysical board silicon next).result, (recordPhysical board silicon next).state,
        notes ++ (recordPhysical board silicon next).notes⟩ : Course Note σ Panic Capabilities) =
        ⟨.ok ⟨.physical, silicon.family, hz, silicon.model⟩, (board.frequency next).2,
          notes ++ [.call (.frequency (.ok hz)),
            .line (identityLine silicon ⟨.physical, silicon.family, hz, silicon.model⟩)]⟩ := by
    intro notes
    rw [recordPhysical_apply clock]
  unfold probe Board.readSilicon Board.requestFrequency
  rw [Work.ask_bind_apply _ read, native, if_pos rfl, Work.ask_bind_apply _ (congrArg Prod.fst asked),
    asked]
  rcases answer with fault | ⟨⟩
  · exact behind [.call (.silicon (.ok silicon)),
      .call (.setFrequency config.targetCpuMhz.toNat (.ok (.error fault))),
      .line (clockWarning fault)]
  · exact behind [.call (.silicon (.ok silicon)),
      .call (.setFrequency config.targetCpuMhz.toNat (.ok (.ok ())))]

end

/-- The record of a probe that found a clock. -/
def ofSilicon (silicon : Silicon) (hz : Nat) : Capabilities :=
  ⟨if silicon.native then .physical else .emulated, silicon.family, hz, silicon.model⟩

/-- A native board is recorded as physical hardware. -/
theorem ofSilicon_of_native {silicon : Silicon} (native : silicon.native = true) (hz : Nat) :
    ofSilicon silicon hz = ⟨.physical, silicon.family, hz, silicon.model⟩ := by
  rw [ofSilicon, if_pos native]

/-- A board that is not native is recorded as emulated. -/
theorem ofSilicon_of_emulated {silicon : Silicon} (emulated : silicon.native = false) (hz : Nat) :
    ofSilicon silicon hz = ⟨.emulated, silicon.family, hz, silicon.model⟩ := by
  rw [ofSilicon, emulated]
  rfl

/-- How a probe of a steady board goes, and the clock it records if it records one: its result and
its notes. -/
inductive SteadyProbe (silicon : Silicon) (mhz hz : Nat) :
    ClockHabit → Reply Capabilities → List Note → Prop where
  | unidentified {habit : ClockHabit} {panic : Panic} :
      SteadyProbe silicon mhz hz habit (.error panic) [.call (.silicon (.error panic))]
  | emulated {habit : ClockHabit} (emulated : silicon.native = false) :
      SteadyProbe silicon mhz hz habit (.ok (ofSilicon silicon hz))
        [.call (.silicon (.ok silicon)), .call (.frequency (.ok hz))]
  | accepted {habit : ClockHabit} (native : silicon.native = true)
      (accepts : habit = .grants ∨ habit = .ignores) :
      SteadyProbe silicon mhz hz habit (.ok (ofSilicon silicon hz))
        [.call (.silicon (.ok silicon)), .call (.setFrequency mhz (.ok (.ok ()))),
          .call (.frequency (.ok hz)), .line (identityLine silicon (ofSilicon silicon hz))]
  | refused {fault : Fault} (native : silicon.native = true) :
      SteadyProbe silicon mhz hz .refuses (.ok (ofSilicon silicon hz))
        [.call (.silicon (.ok silicon)), .call (.setFrequency mhz (.ok (.error fault))),
          .line (clockWarning fault), .call (.frequency (.ok hz)),
          .line (identityLine silicon (ofSilicon silicon hz))]
  | broken {panic : Panic} (native : silicon.native = true) :
      SteadyProbe silicon mhz hz .breaks (.error panic)
        [.call (.silicon (.ok silicon)), .call (.setFrequency mhz (.error panic))]

/-- A native board that answers the request for its clock is probed to the end, with a warning if
the answer is a fault. -/
theorem SteadyProbe.of_answer {silicon : Silicon} {mhz hz before after : Nat} {habit : ClockHabit}
    {answer : Except Fault Unit} (native : silicon.native = true)
    (acts : habit.Acts mhz before (.ok answer) after) :
    SteadyProbe silicon mhz hz habit (.ok (ofSilicon silicon hz))
      (.call (.silicon (.ok silicon)) :: .call (.setFrequency mhz (.ok answer)) ::
        warnings answer ++
        [.call (.frequency (.ok hz)), .line (identityLine silicon (ofSilicon silicon hz))]) := by
  cases acts with
  | grants => exact .accepted native (.inl rfl)
  | ignores => exact .accepted native (.inr rfl)
  | refuses => exact .refused native

/-- The next probe will find this clock after its request, unless the request breaks off. -/
def Due (silicon : Silicon) (habit : ClockHabit) (mhz clock hz : Nat) : Prop :=
  ¬ (silicon.native = true ∧ habit = .breaks) → habit.clockAfter mhz clock silicon.native = hz

/-- A clock that has been set is due to be set to what it is. -/
theorem Due.settled {silicon : Silicon} {habit : ClockHabit} {mhz clock hz : Nat}
    (due : Due silicon habit mhz clock hz) : Due silicon habit mhz hz hz := by
  intro goes
  rw [← due goes, ClockHabit.clockAfter_clockAfter]

variable {board : Board σ} {clock : σ → Nat} {silicon : Silicon} {habit : ClockHabit}
  (steady : SteadyBoard board clock silicon habit) (config : Config)

include steady

/-- A probe goes as it is due to, and the next one is due to go the same way. -/
theorem steadyProbe_probe {s : σ} {hz : Nat}
    (due : Due silicon habit config.targetCpuMhz.toNat (clock s) hz) :
    SteadyProbe silicon config.targetCpuMhz.toNat hz habit (probe board config s).result
        (probe board config s).notes ∧
      Due silicon habit config.targetCpuMhz.toNat (clock (probe board config s).state) hz := by
  rw [← steady.clock_silicon s] at due
  rcases steady.identity s with read | ⟨panic, broke⟩
  case inr =>
    rw [probe_apply_of_panic board config broke]
    exact ⟨.unidentified, due⟩
  cases native : silicon.native with
  | false =>
    have unchanged : clock (board.silicon s).2 = hz := by
      have found := due (by simp [native])
      rwa [native, ClockHabit.clockAfter_of_emulated] at found
    rw [probe_apply_of_emulated board config read native (steady.frequency _),
      ← ofSilicon_of_emulated native, unchanged]
    rw [← steady.clock_frequency] at due
    exact ⟨.emulated native, due⟩
  | true =>
    have acts := steady.setFrequency config.targetCpuMhz.toNat (board.silicon s).2
    rcases asked : board.setFrequency config.targetCpuMhz.toNat (board.silicon s).2
      with ⟨panic | answer, next⟩
    · rw [asked] at acts
      obtain rfl : habit = .breaks := by cases acts with | breaks => rfl
      rw [probe_apply_of_clock_panic board config read native (congrArg Prod.fst asked)]
      exact ⟨.broken native, fun goes => absurd ⟨native, rfl⟩ goes⟩
    · rw [asked] at acts
      have now : clock next = hz := by
        have found := due fun breaks => acts.of_answer.1 breaks.2
        rw [native] at found
        exact acts.of_answer.2.trans found
      rw [probe_apply_of_clock board config read native asked (steady.frequency next),
        ← ofSilicon_of_native native, now]
      refine ⟨.of_answer native acts, ?_⟩
      rw [steady.clock_frequency, now]
      exact due.settled

omit steady

/-! ### Any number of probes -/

/-- So many probes in a row, each of the board as the one before it left it. -/
def probes (board : Board σ) (config : Config) :
    Nat → σ → List (Course Note σ Panic Capabilities)
  | 0, _ => []
  | count + 1, s =>
    probe board config s :: probes board config count (probe board config s).state

include steady

/-- Each probe in a row goes as a probe of a steady board does, with the same clock recorded. -/
theorem steadyProbe_of_mem_probes {count : Nat} {s : σ} {hz : Nat}
    (due : Due silicon habit config.targetCpuMhz.toNat (clock s) hz)
    {course : Course Note σ Panic Capabilities} (member : course ∈ probes board config count s) :
    SteadyProbe silicon config.targetCpuMhz.toNat hz habit course.result course.notes := by
  induction count generalizing s with
  | zero => cases member
  | succ count ih =>
    obtain ⟨goes, next_due⟩ := steadyProbe_probe steady config due
    rcases List.mem_cons.mp member with rfl | later
    · exact goes
    · exact ih next_due later

omit steady

/-- The identity was read. -/
def Identified (notes : List Note) : Prop :=
  ∃ silicon, Call.silicon (.ok silicon) ∈ Note.calls notes

/-- The clocks that were requested, in megahertz. -/
def requests (notes : List Note) : List Nat :=
  (Note.calls notes).filterMap fun
    | .setFrequency mhz _ => some mhz
    | _ => none

/-- The lines that were written. -/
def written (notes : List Note) : List Line :=
  notes.filterMap fun
    | .line line => some line
    | .call _ => none

namespace SteadyProbe

variable {mhz hz : Nat} {result : Reply Capabilities} {notes : List Note}
  (goes : SteadyProbe silicon mhz hz habit result notes)

include goes

/-- A probe that returns records the identity and the clock that is due. -/
theorem record_eq {caps : Capabilities} (returns : result = .ok caps) :
    caps = ofSilicon silicon hz := by
  cases goes with
  | unidentified => cases returns
  | broken => cases returns
  | _ => exact (Except.ok.inj returns).symm

/-- A probe returns exactly if the board tells its identity and does not break off at its clock. -/
theorem returns_iff :
    (∃ caps, result = .ok caps) ↔
      Identified notes ∧ ¬ (silicon.native = true ∧ habit = .breaks) := by
  cases goes with
  | unidentified => simp [Identified]
  | emulated emulated => simp [Identified, emulated]
  | accepted native accepts =>
    rcases accepts with rfl | rfl
    · simp [Identified]
    · simp [Identified]
  | refused native => simp [Identified]
  | broken native => simp [Identified, native]

/-- A board that tells its identity is asked for its clock once if it is native, and never
otherwise. -/
theorem requests_of_identified (identified : Identified notes) :
    requests notes = if silicon.native then [mhz] else [] := by
  cases goes with
  | unidentified => simp [Identified] at identified
  | emulated emulated => simp [requests, emulated]
  | _ native => simp [requests, native]

/-- A board that does not tell its identity is not asked for its clock. -/
theorem requests_of_unidentified (unidentified : ¬ Identified notes) : requests notes = [] := by
  cases goes with
  | unidentified => rfl
  | _ => simp [Identified] at unidentified

/-- The last call of a probe that returns tells the clock that is recorded. -/
theorem reads_last {caps : Capabilities} (returns : result = .ok caps) :
    ∃ before, Note.calls notes = before ++ [.frequency (.ok caps.frequencyHz)] := by
  rw [goes.record_eq returns]
  cases goes with
  | unidentified => cases returns
  | broken => cases returns
  | emulated => exact ⟨[_], rfl⟩
  | accepted => exact ⟨[_, _], rfl⟩
  | refused => exact ⟨[_, _], rfl⟩

omit goes

variable (native : silicon.native = true) (identified : Identified notes)

include native identified

/-- A board that refuses to change its clock is probed with one warning in front of the line of its
identity. -/
theorem of_refuses (goes : SteadyProbe silicon mhz hz .refuses result notes) :
    result = .ok (ofSilicon silicon hz) ∧ ∃ fault,
      written notes = [clockWarning fault, identityLine silicon (ofSilicon silicon hz)] := by
  cases goes with
  | unidentified => simp [Identified] at identified
  | emulated emulated => simp [native] at emulated
  | accepted _ accepts => simp at accepts
  | refused => exact ⟨rfl, _, rfl⟩

/-- A board that ignores the request is probed without a warning. -/
theorem of_ignores (goes : SteadyProbe silicon mhz hz .ignores result notes) :
    result = .ok (ofSilicon silicon hz) ∧
      written notes = [identityLine silicon (ofSilicon silicon hz)] := by
  cases goes with
  | unidentified => simp [Identified] at identified
  | emulated emulated => simp [native] at emulated
  | accepted => exact ⟨rfl, rfl⟩

end SteadyProbe

/-- What any number of probes of a steady board have in common, given the clock before the first. -/
structure Repeatable (silicon : Silicon) (habit : ClockHabit) (config : Config) (initial : Nat)
    (courses : List (Course Note σ Panic Capabilities)) : Prop where
  /-- All probes that return make one record. -/
  single : ∀ course ∈ courses, ∀ other ∈ courses, ∀ caps caps',
    course.result = .ok caps → other.result = .ok caps' → caps = caps'
  /-- A probe returns if the identity was read, unless its request breaks off. -/
  returns_iff : ∀ course ∈ courses, (∃ caps, course.result = .ok caps) ↔
    Identified course.notes ∧ ¬ (silicon.native = true ∧ habit = .breaks)
  /-- It requests the configured clock once on the physical part, and never under emulation. -/
  requests : ∀ course ∈ courses, Identified course.notes →
    requests course.notes = if silicon.native then [config.targetCpuMhz.toNat] else []
  unrequested : ∀ course ∈ courses, ¬ Identified course.notes → Capabilities.requests course.notes = []
  /-- The recorded clock is the one that is reported at the end, behind the request. -/
  reads_last : ∀ course ∈ courses, ∀ caps, course.result = .ok caps →
    ∃ before, Note.calls course.notes = before ++ [.frequency (.ok caps.frequencyHz)]
  /-- It is the configured one if that is granted, and otherwise the one before the first probe. -/
  record_eq : ∀ course ∈ courses, ∀ caps, course.result = .ok caps →
    caps = ⟨if silicon.native then .physical else .emulated, silicon.family,
      if silicon.native = true ∧ habit = .grants then config.targetCpuMhz.toNat * 1000000
      else initial, silicon.model⟩
  /-- The configured clock in hertz is within 64 bits. -/
  fits : config.targetCpuMhz.toNat * 1000000 < Uniform.wordCount

/-- Probes that all go as probes of a steady board do are repetitions of one another. -/
theorem Repeatable.of_steadyProbe {initial : Nat} {courses : List (Course Note σ Panic Capabilities)}
    (goes : ∀ course ∈ courses, SteadyProbe silicon config.targetCpuMhz.toNat
      (habit.clockAfter config.targetCpuMhz.toNat initial silicon.native) habit course.result
      course.notes) : Repeatable silicon habit config initial courses where
  single course member other member' caps caps' returns returns' :=
    ((goes course member).record_eq returns).trans ((goes other member').record_eq returns').symm
  returns_iff course member := (goes course member).returns_iff
  requests course member := (goes course member).requests_of_identified
  unrequested course member := (goes course member).requests_of_unidentified
  reads_last course member _ := (goes course member).reads_last
  record_eq course member caps returns := by
    rw [(goes course member).record_eq returns, ofSilicon, ClockHabit.clockAfter_eq_ite]
  fits := by
    have word := config.targetCpuMhz.toNat_lt
    show config.targetCpuMhz.toNat * 1000000 < 0x10000000000000000
    omega

/-- Probing a steady board again and again makes the same record each time, whatever the board does
with the requests.  A board that refuses them is told from one that ignores them by a warning in
each probe and by nothing else. -/
theorem probing_is_repeatable (steady : SteadyBoard board clock silicon habit) (config : Config)
    (count : Nat) (start : σ) :
    Repeatable silicon habit config (clock start) (probes board config count start) ∧
      (silicon.native = true → habit = .refuses →
        ∀ {τ : Type} {other : Board τ} {clock' : τ → Nat} (start' : τ),
          SteadyBoard other clock' silicon .ignores → clock' start' = clock start →
          ∀ course ∈ probes board config count start,
            ∀ course' ∈ probes other config count start',
              Identified course.notes → Identified course'.notes →
                ∃ caps fault, course.result = .ok caps ∧ course'.result = .ok caps ∧
                  written course.notes = clockWarning fault :: written course'.notes) := by
  have goes : ∀ course ∈ probes board config count start, SteadyProbe silicon
      config.targetCpuMhz.toNat (habit.clockAfter config.targetCpuMhz.toNat (clock start)
        silicon.native) habit course.result course.notes :=
    fun course member => steadyProbe_of_mem_probes steady config (fun _ => rfl) member
  refine ⟨.of_steadyProbe config goes, ?_⟩
  rintro native rfl τ other clock' start' ignoring same course member course' member' identified
    identified'
  have goes' := steadyProbe_of_mem_probes ignoring config (fun _ => rfl) member'
  rw [same] at goes'
  obtain ⟨returns, fault, lines⟩ := (goes course member).of_refuses native identified
  obtain ⟨returns', lines'⟩ := goes'.of_ignores native identified'
  exact ⟨_, fault, returns, returns', by rw [lines, lines']; rfl⟩

/-- A scripted board that refuses the clock, and fails to tell its identity to the second probe,
beside one that ignores requests. -/
theorem probing_is_repeatable_of_refusing_script :
    let script : Script :=
      { silicon := ⟨"i.MX6UL", .imx6UL, 1, 2, true⟩
        frequencyHz := 528000000
        clock := .acts (.ok (.error (.clockAdjust 900 "unsupported operating point")))
        siliconActions := [.ok (.ok ()), .error (.text "anatop")]
        mediaActions := []
        cipherActions := []
        ciphertext := []
        reruns := 0
        ignoresFailedRerun := false
        serviceEnd := .ok (.ok ()) }
    let ignoring : Script := { script with clock := .ignores }
    let courses := probes script.board .standard 3 script.start
    SteadyBoard script.board Script.Position.frequencyHz script.silicon .refuses ∧
      courses.map Course.result = [.ok ⟨.physical, .imx6UL, 528000000, "i.MX6UL"⟩,
        .error (.text "anatop"), .ok ⟨.physical, .imx6UL, 528000000, "i.MX6UL"⟩] ∧
      courses.map (requests ·.notes) = [[900], [], [900]] ∧
      Repeatable script.silicon .refuses .standard 528000000 courses ∧
      ∀ course ∈ courses, ∀ course' ∈ probes ignoring.board .standard 3 ignoring.start,
        Identified course.notes → Identified course'.notes →
          ∃ caps fault, course.result = .ok caps ∧ course'.result = .ok caps ∧
            written course.notes = clockWarning fault :: written course'.notes := by
  intro script ignoring courses
  have steady : SteadyBoard script.board Script.Position.frequencyHz script.silicon .refuses :=
    script.steady
  obtain ⟨repeats, differs⟩ := probing_is_repeatable steady .standard 3 script.start
  exact ⟨steady, rfl, rfl, repeats, differs rfl rfl ignoring.start ignoring.steady rfl⟩

end Capabilities

end BoardDiagnostics
