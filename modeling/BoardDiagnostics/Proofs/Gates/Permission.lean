import BoardDiagnostics.Battery.Registry
import BoardDiagnostics.Proofs.World

/-!
# What a battery may ask of the board

A battery tests storage media on physical hardware only, and asks for the cipher only on hardware
that has one.  It owes the board at most one call to the cipher, which is made when the cipher unit
runs its body; a unit that outlives its battery as a stray may still make that call later.
-/

set_option autoImplicit false

namespace BoardDiagnostics

variable {σ α β : Type}

namespace Call

/-- The identity was read. -/
def isSilicon : Call → Bool
  | silicon _ => true
  | _ => false

/-- The clock was to be changed. -/
def isSetFrequency : Call → Bool
  | setFrequency _ _ => true
  | _ => false

/-- Octets were to be enciphered. -/
def isEncrypt : Call → Bool
  | encrypt _ _ _ _ => true
  | _ => false

/-- The device-mode service was entered. -/
def isServe : Call → Bool
  | serveBegun _ => true
  | _ => false

/-- A call that a battery may make on hardware with these capabilities. -/
def PermittedBy (caps : Capabilities) : Call → Prop
  | encrypt _ _ _ _ => caps.hasHardwareCipher = true
  | testMedia _ _ => caps.runsMediaChecks = true
  | _ => False

end Call

/-- The calls among the notes of some work on a board. -/
def Note.calls (notes : List Note) : List Call := Transcript.calls (notes.map Entry.note)

/-- How often the cipher is called in a transcript. -/
def Transcript.ciphers (transcript : Transcript) : Nat :=
  (Transcript.calls transcript).countP Call.isEncrypt

namespace Note

/-- Nothing noted, nothing called. -/
@[simp] theorem calls_nil : calls [] = [] := rfl

/-- A printed line is no call. -/
@[simp] theorem calls_cons_line (line : Line) (notes : List Note) :
    calls (.line line :: notes) = calls notes := rfl

/-- The calls stand in the order of the notes. -/
@[simp] theorem calls_cons_call (call : Call) (notes : List Note) :
    calls (.call call :: notes) = call :: calls notes := rfl

/-- Printed lines are no calls. -/
@[simp] theorem calls_map_line (lines : List Line) : calls (lines.map Note.line) = [] := by
  induction lines with
  | nil => rfl
  | cons line lines ih => rw [List.map_cons, calls_cons_line, ih]

/-- Printing under the name of a unit changes no call. -/
@[simp] theorem calls_map_ofUnit (notes : List Note) : calls (notes.map Note.ofUnit) = calls notes := by
  induction notes with
  | nil => rfl
  | cons note notes ih =>
    cases note with
    | line line =>
      show calls (.line line.ofUnit :: notes.map Note.ofUnit) = _
      simp only [calls_cons_line, ih]
    | call call =>
      show calls (.call call :: notes.map Note.ofUnit) = _
      simp only [calls_cons_call, ih]

end Note

/-! ### Calls that the gates let through -/

namespace Capabilities

variable {caps : Capabilities}

/-- Only an i.MX6ULL that is there in hardware has the cipher. -/
theorem hasHardwareCipher_iff :
    caps.hasHardwareCipher = true ↔ caps.isPhysical = true ∧ caps.family = .imx6ULL := by
  obtain ⟨environment, family, hz, model⟩ := caps
  cases environment <;> cases family <;> simp [hasHardwareCipher, isPhysical]

/-- Only an i.MX6UL or i.MX6ULL that is there in hardware has the device mode. -/
theorem supportsDeviceMode_iff :
    caps.supportsDeviceMode = true ↔
      caps.isPhysical = true ∧ (caps.family = .imx6UL ∨ caps.family = .imx6ULL) := by
  obtain ⟨environment, family, hz, model⟩ := caps
  cases environment <;> cases family <;> simp [supportsDeviceMode, isPhysical]

end Capabilities

namespace Call

variable {caps : Capabilities} {call : Call}

/-- On emulated hardware a battery may call nothing. -/
theorem not_permittedBy_of_emulated (emulated : caps.isPhysical = false) :
    ¬ call.PermittedBy caps := by
  intro permitted
  cases call with
  | encrypt =>
    have physical := (Capabilities.hasHardwareCipher_iff.mp permitted).1
    exact absurd physical (by simp [emulated])
  | testMedia =>
    have physical : caps.isPhysical = true := permitted
    exact absurd physical (by simp [emulated])
  | _ => exact permitted

/-- A battery may not ask the board what it is. -/
theorem isSilicon_of_permittedBy (permitted : call.PermittedBy caps) : call.isSilicon = false := by
  cases call with
  | silicon => exact permitted.elim
  | _ => rfl

/-- A battery may not change the clock. -/
theorem isSetFrequency_of_permittedBy (permitted : call.PermittedBy caps) :
    call.isSetFrequency = false := by
  cases call with
  | setFrequency => exact permitted.elim
  | _ => rfl

/-- A battery may not enter the device-mode service. -/
theorem isServe_of_permittedBy (permitted : call.PermittedBy caps) : call.isServe = false := by
  cases call with
  | serveBegun => exact permitted.elim
  | _ => rfl

/-- A battery may call the cipher of an i.MX6ULL only. -/
theorem family_of_permittedBy (permitted : call.PermittedBy caps) (enciphers : call.isEncrypt = true) :
    caps.family = .imx6ULL := by
  cases call with
  | encrypt => exact (Capabilities.hasHardwareCipher_iff.mp permitted).2
  | _ => cases enciphers

end Call

/-! ### Units -/

/-- The unit is the cipher unit. -/
def CheckUnit.isCipher (unit : CheckUnit σ) : Bool := unit.name = "dcp"

/-- A unit as there may be in a battery on hardware with these capabilities. -/
structure CheckUnit.Gated (caps : Capabilities) (unit : CheckUnit σ) : Prop where
  permitted : ∀ state, ∀ call ∈ Note.calls (unit.body state).notes, call.PermittedBy caps
  cipher : ∀ state, (Note.calls (unit.body state).notes).countP Call.isEncrypt ≤
    if unit.isCipher then 1 else 0

/-- The cipher check calls the cipher once, with its own key, vector and text. -/
theorem CipherCheck.calls_run (board : Board σ) (state : σ) :
    Note.calls (CipherCheck.run board state).notes =
      [.encrypt key initialVector plaintext (board.encrypt key initialVector plaintext state).1] := by
  unfold CipherCheck.run Board.encipher
  rcases reply : (board.encrypt key initialVector plaintext state).1 with panic | answer
  · have fails : (Work.ask (board.encrypt key initialVector plaintext)
        (.encrypt key initialVector plaintext) state).result = .error panic := reply
    rw [Activity.bind_of_error fails]
    simp [Work.ask, reply]
  · have ends : (Work.ask (board.encrypt key initialVector plaintext)
        (.encrypt key initialVector plaintext) state).result = .ok answer := reply
    rw [Activity.bind_of_ok ends]
    rcases answer with fault | output
    · simp [Work.ask, reply, pure, Activity.pure]
    · by_cases known : output = ciphertext
      · simp [Work.ask, reply, known, Work.say, Activity.bind_apply, Activity.note, pure,
          Activity.pure]
      · simp [Work.ask, reply, known, pure, Activity.pure]

/-- No host check has the name of the cipher check. -/
theorem isCipher_hostCheck (runs : HostCheck → CheckRun) (check : HostCheck) :
    (check.unit runs : CheckUnit σ).isCipher = false := by
  cases check <;> rfl

/-- A host check calls nothing, so it is gated on any hardware. -/
theorem gated_hostCheck (caps : Capabilities) (runs : HostCheck → CheckRun) (check : HostCheck) :
    (check.unit runs : CheckUnit σ).Gated caps := by
  have silent : ∀ state, Note.calls ((check.unit runs : CheckUnit σ).body state).notes = [] :=
    fun _ => Note.calls_map_line _
  exact ⟨fun state => by simp [silent], fun state => by simp [silent]⟩

/-- The cipher check is gated on hardware with the cipher. -/
theorem gated_cipherUnit {caps : Capabilities} (has : caps.hasHardwareCipher = true)
    (board : Board σ) : (cipherUnit board).Gated caps := by
  have calls := CipherCheck.calls_run board
  refine ⟨fun state call member => ?_, fun state => ?_⟩
  · have member := (calls state) ▸ member
    rw [List.mem_singleton.mp member]
    exact has
  · show (Note.calls (CipherCheck.run board state).notes).countP Call.isEncrypt ≤ 1
    rw [calls]
    exact List.countP_le_length

/-- All registered units are gated. -/
theorem gated_registry (caps : Capabilities) (board : Board σ) (runs : HostCheck → CheckRun) :
    ∀ unit ∈ registry caps board runs, unit.Gated caps := by
  intro unit member
  unfold registry at member
  rcases List.mem_append.mp member with host | cipher
  · obtain ⟨check, -, rfl⟩ := List.mem_map.mp host
    exact gated_hostCheck caps runs check
  · split at cipher
    · next has =>
      rw [List.mem_singleton.mp cipher]
      exact gated_cipherUnit has board
    · cases cipher

/-- The cipher check is registered once at most. -/
theorem countP_isCipher_registry (caps : Capabilities) (board : Board σ)
    (runs : HostCheck → CheckRun) : (registry caps board runs).countP CheckUnit.isCipher ≤ 1 := by
  have hosts : (HostCheck.all.map (HostCheck.unit runs) : List (CheckUnit σ)).countP
      CheckUnit.isCipher = 0 := by
    apply List.countP_eq_zero.mpr
    intro unit member
    obtain ⟨check, -, rfl⟩ := List.mem_map.mp member
    simp [isCipher_hostCheck]
  unfold registry
  rw [List.countP_append, hosts]
  split
  · exact Nat.zero_add _ ▸ List.countP_le_length
  · exact Nat.zero_le _

/-! ### Tasks and strays -/

/-- The task has yet to call the cipher. -/
def Task.owesCipher (task : Task σ) : Bool :=
  match task.progress with
  | .queued | .begun => task.unit.isCipher
  | .ended _ | .reported _ | .signalled => false

/-- A world whose strays come from batteries on hardware with these capabilities. -/
def World.Gated (caps : Capabilities) (world : World σ) : Prop :=
  ∀ task ∈ world.strays, task.unit.Gated caps

/-- How many strays have yet to call the cipher. -/
def World.owed (world : World σ) : Nat := world.strays.countP Task.owesCipher

/-- What was noted between two moments at which so many calls to the cipher were owed. -/
structure WithinGates (caps : Capabilities) (owed : Nat) (notes : Transcript) (left : Nat) :
    Prop where
  permitted : ∀ call ∈ Transcript.calls notes, call.PermittedBy caps
  cipher : notes.ciphers + left ≤ owed

namespace WithinGates

variable {caps : Capabilities} {owed between left extra : Nat} {notes more : Transcript}

/-- Without a call, as many calls are owed as before. -/
theorem silent (calls : Transcript.calls notes = []) : WithinGates caps owed notes owed := by
  refine ⟨by simp [calls], ?_⟩
  simp [Transcript.ciphers, calls]

/-- What is owed after the first notes is what the rest may call. -/
theorem append (first : WithinGates caps owed notes between)
    (rest : WithinGates caps between more left) : WithinGates caps owed (notes ++ more) left := by
  refine ⟨fun call member => ?_, ?_⟩
  · rw [Transcript.calls_append] at member
    rcases List.mem_append.mp member with early | late
    · exact first.permitted call early
    · exact rest.permitted call late
  · have split : (notes ++ more).ciphers = notes.ciphers + more.ciphers := by
      simp [Transcript.ciphers]
    have := first.cipher
    have := rest.cipher
    omega

/-- More may be owed before, and less after. -/
theorem weaken (within : WithinGates caps owed notes left) {more less : Nat} (grows : owed ≤ more)
    (shrinks : less ≤ left) : WithinGates caps more notes less :=
  ⟨within.permitted, by have := within.cipher; omega⟩

end WithinGates

end BoardDiagnostics
