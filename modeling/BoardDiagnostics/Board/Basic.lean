import BoardDiagnostics.Activity
import BoardDiagnostics.Board.Call
import BoardDiagnostics.Console

/-!
# Boards

A board is what the diagnostics see of the hardware: it tells what it is, and it can be asked
for a clock, a storage test, a cipher and the device-mode service.  Everything a board does may
depend on all that was asked of it before, so it is a machine with a state; each call answers,
refuses with a fault, or breaks off.

The device-mode service runs on the board's side.  It may ask for the diagnostics again any
number of times before it ends, and may do with the answer what it likes.
-/

set_option autoImplicit false

namespace BoardDiagnostics

/-- A device-mode session, from the moment at which the board has the word. -/
inductive Session (σ : Type) where
  /-- The service ends. -/
  | ended (reply : Reply (Except Fault Unit)) (state : σ)
  /-- The service asks for the diagnostics and will go on with their result. -/
  | rerun (state : σ) (resume : Except Fault Unit → σ → Session σ)

/-- A board whose states are of type `σ`. -/
structure Board (σ : Type) where
  /-- Read the identity. -/
  silicon : σ → Reply Silicon × σ
  /-- Read the clock, in hertz. -/
  frequency : σ → Reply Nat × σ
  /-- Ask for a clock of so many megahertz. -/
  setFrequency : Nat → σ → Reply (Except Fault Unit) × σ
  /-- Read a storage medium. -/
  testMedia : MediaTarget → σ → Reply (Except Fault Unit) × σ
  /-- Encipher octets in cipher-block chaining, given the key and the initial vector. -/
  encrypt : Octets → Octets → Octets → σ → Reply (Except Fault Octets) × σ
  /-- Begin the device-mode service. -/
  serve : Capabilities → σ → Session σ

/-- What happens outside the event log: lines on the console and calls to the board. -/
inductive Note where
  | line (line : Line)
  | call (call : Call)

namespace Note

/-- The same note, as a concurrent unit takes it. -/
def ofUnit : Note → Note
  | line l => line l.ofUnit
  | call c => call c

end Note

/-- Work on a board, which may break off. -/
abbrev Work (σ : Type) := Activity Note σ Panic

namespace Work

variable {σ : Type}

/-- Write a line. -/
def say (line : Line) : Work σ Unit := Activity.note (.line line)

/-- Call a board, and break off if the call does. -/
def ask {α : Type} (request : σ → Reply α × σ) (record : Reply α → Call) : Work σ α := fun s =>
  let answer := request s
  ⟨answer.1, answer.2, [.call (record answer.1)]⟩

end Work

namespace Board

variable {σ : Type} (board : Board σ)

/-- Read the identity. -/
def readSilicon : Work σ Silicon := Work.ask board.silicon .silicon

/-- Read the clock. -/
def readFrequency : Work σ Nat := Work.ask board.frequency .frequency

/-- Ask for a clock of so many megahertz. -/
def requestFrequency (mhz : Nat) : Work σ (Except Fault Unit) :=
  Work.ask (board.setFrequency mhz) (.setFrequency mhz)

/-- Have a storage medium read. -/
def readMedia (target : MediaTarget) : Work σ (Except Fault Unit) :=
  Work.ask (board.testMedia target) (.testMedia target)

/-- Have octets enciphered. -/
def encipher (key iv data : Octets) : Work σ (Except Fault Octets) :=
  Work.ask (board.encrypt key iv data) (.encrypt key iv data)

end Board

end BoardDiagnostics
