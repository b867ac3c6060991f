import BoardDiagnostics.Proofs.Battery.Strays
import BoardDiagnostics.Proofs.Gates.Permission

/-!
# Exchanges of a sequential phase

An exchange is the test of a storage medium or an event: what a sequential phase asks of the board,
and what it tells about it.  Where no medium is tested, only events are exchanged
(`exchanges_eq_events`).  Strays that spare the storage media take no part in the exchanges
(`exchanges_advanceStrays`), and the units of a battery are such (`sparesMedia_registry`).
-/

set_option autoImplicit false

namespace BoardDiagnostics

variable {σ : Type}

/-- A storage medium was to be tested. -/
def Call.isTestMedia : Call → Bool
  | testMedia _ _ => true
  | _ => false

/-- The entry is an event or the test of a storage medium. -/
def Entry.isExchange : Entry → Bool
  | event _ => true
  | note (.call call) => call.isTestMedia
  | note (.line _) => false

namespace Transcript

/-- The events and the tests of storage media, in order. -/
def exchanges (transcript : Transcript) : Transcript := transcript.filter Entry.isExchange

/-- Nothing is exchanged in an empty transcript. -/
@[simp] theorem exchanges_nil : exchanges [] = [] := rfl

/-- Exchanges are read entry by entry. -/
@[simp] theorem exchanges_append (first more : Transcript) :
    exchanges (first ++ more) = exchanges first ++ exchanges more := List.filter_append ..

/-- An event is an exchange. -/
@[simp] theorem exchanges_cons_event (event : Event) (more : Transcript) :
    exchanges (.event event :: more) = .event event :: exchanges more := rfl

/-- A line is no exchange. -/
@[simp] theorem exchanges_cons_line (line : Line) (more : Transcript) :
    exchanges (.line line :: more) = exchanges more := rfl

/-- The test of a storage medium is an exchange. -/
@[simp] theorem exchanges_cons_testMedia (target : MediaTarget)
    (reply : Reply (Except Fault Unit)) (more : Transcript) :
    exchanges (.call (.testMedia target reply) :: more) =
      .call (.testMedia target reply) :: exchanges more := rfl

/-- Where no storage medium is tested, only events are exchanged. -/
theorem exchanges_eq_events {transcript : Transcript}
    (spared : ∀ call ∈ calls transcript, call.isTestMedia = false) :
    exchanges transcript = (events transcript).map .event := by
  induction transcript with
  | nil => rfl
  | cons entry rest ih =>
    match entry with
    | .event event =>
      rw [exchanges_cons_event, ih spared]
      rfl
    | .note (.line line) => exact ih spared
    | .note (.call call) =>
      obtain ⟨first, others⟩ := List.forall_mem_cons.mp spared
      unfold exchanges
      rw [List.filter_cons_of_neg (by simp [Entry.isExchange, first])]
      exact ih others

end Transcript

/-! ## Strays that spare the storage media -/

/-- The body of a unit tests no storage medium. -/
def CheckUnit.SparesMedia (unit : CheckUnit σ) : Prop :=
  ∀ state, ∀ call ∈ Note.calls (unit.body state).notes, call.isTestMedia = false

/-- No stray tests a storage medium. -/
def World.SparesMedia (world : World σ) : Prop := ∀ task ∈ world.strays, task.unit.SparesMedia

/-- No unit of a battery tests a storage medium: a check of the host asks the board for nothing, and
the cipher check for one encryption. -/
theorem sparesMedia_registry (caps : Capabilities) (board : Board σ) (runs : HostCheck → CheckRun) :
    ∀ unit ∈ registry caps board runs, unit.SparesMedia := by
  intro unit member state call asked
  rcases List.mem_append.mp member with host | cipher
  · obtain ⟨check, -, rfl⟩ := List.mem_map.mp host
    have silent : Note.calls ((check.unit runs : CheckUnit σ).body state).notes = [] :=
      Note.calls_map_line _
    rw [silent] at asked
    cases asked
  · split at cipher
    case isTrue =>
      obtain rfl := List.mem_singleton.mp cipher
      have calls : Note.calls ((cipherUnit board).body state).notes = _ :=
        CipherCheck.calls_run board state
      rw [calls] at asked
      rw [List.mem_singleton.mp asked]
      rfl
    case isFalse => cases cipher

/-- Whatever a task asks the board for, its body asks for. -/
theorem Task.mem_calls_body {task : Task σ} {board : σ} {call : Call}
    (asked : call ∈ Transcript.calls ((task.advance board).notes.map .note)) :
    call ∈ Note.calls (task.unit.body board).notes := by
  rcases task with ⟨unit, signaller, elapsed, progress⟩
  cases progress with
  | queued => cases asked
  | begun =>
    rw [← Note.calls_map_ofUnit]
    exact asked
  | ended outcome =>
    have silent : Note.calls (List.map (Note.line ∘ Line.ofUnit)
        (Task.reportLines ⟨unit, signaller, elapsed, .ended outcome⟩ outcome)) = [] := by
      rw [← List.map_map]
      exact Note.calls_map_line _
    have asked : call ∈ Note.calls (List.map (Note.line ∘ Line.ofUnit) _) := asked
    rw [silent] at asked
    cases asked
  | reported outcome => cases asked
  | signalled => cases asked

namespace World

variable {world : World σ}

/-- Only the units of the strays decide whether they spare the storage media. -/
theorem SparesMedia.of_map_unit_eq {other : World σ}
    (same : other.strays.map Task.unit = world.strays.map Task.unit) (spares : world.SparesMedia) :
    other.SparesMedia := by
  intro task member
  have among := List.mem_map_of_mem (f := Task.unit) member
  rw [same] at among
  obtain ⟨stray, there, unit⟩ := List.mem_map.mp among
  rw [← unit]
  exact spares stray there

/-- Strays that spare the storage media still do after they have gone on. -/
theorem SparesMedia.advanceStrays (spares : world.SparesMedia) (numbers : List Nat) :
    (world.advanceStrays numbers).1.SparesMedia :=
  .of_map_unit_eq (world.map_unit_advanceStrays numbers) spares

/-- A stray that spares the storage media exchanges nothing. -/
theorem exchanges_advanceStray (spares : world.SparesMedia) (number : Nat) :
    Transcript.exchanges (world.advanceStray number).2 = [] := by
  have spared : ∀ call ∈ Transcript.calls (world.advanceStray number).2,
      call.isTestMedia = false := by
    intro call asked
    unfold advanceStray at asked
    split at asked
    case h_1 => cases asked
    case h_2 task here =>
      exact spares task (List.mem_of_getElem? here) _ call (Task.mem_calls_body asked)
  rw [Transcript.exchanges_eq_events spared, events_advanceStray]
  rfl

/-- Strays that spare the media take no part in the exchanges. -/
theorem exchanges_advanceStrays (spares : world.SparesMedia) (numbers : List Nat) :
    Transcript.exchanges (world.advanceStrays numbers).2 = [] := by
  induction numbers generalizing world with
  | nil => rfl
  | cons number rest ih =>
    have later : (world.advanceStray number).1.SparesMedia := spares.advanceStrays [number]
    rw [advanceStrays_cons, Transcript.exchanges_append, exchanges_advanceStray spares, ih later]
    rfl

end World

end BoardDiagnostics
