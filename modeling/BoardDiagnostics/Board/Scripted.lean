import BoardDiagnostics.Board.Emulated

/-!
# Scripted boards

A board that acts by a script: one prepared action for each call, in the order of the calls, and
plain success once a script has run out.  It shows how the diagnostics behave on hardware that
refuses, fails or breaks off at a chosen place.
-/

set_option autoImplicit false

namespace BoardDiagnostics

/-- A prepared action: success, a fault or a panic. -/
abbrev ScriptedAction := Reply (Except Fault Unit)

/-- What a scripted board does when asked for a clock. -/
inductive ScriptedClock where
  /-- It acts, and takes the clock over if it succeeds. -/
  | acts (action : ScriptedAction)
  /-- It claims success and keeps its clock. -/
  | ignores

/-- What a scripted board does when asked to encipher. -/
inductive ScriptedCipher where
  /-- It gives this answer. -/
  | answers (reply : Reply (Except Fault Octets))
  /-- It gives the data back. -/
  | echoes

/-- A script. -/
structure Script where
  silicon : Silicon
  frequencyHz : Nat
  clock : ScriptedClock
  /-- What happens before each reading of the identity; a fault there has no effect. -/
  siliconActions : List ScriptedAction
  mediaActions : List ScriptedAction
  cipherActions : List ScriptedCipher
  /-- What the cipher answers once its script has run out. -/
  ciphertext : Octets
  /-- How often the device-mode service asks for the diagnostics. -/
  reruns : Nat
  /-- The service goes on after diagnostics that failed. -/
  ignoresFailedRerun : Bool
  /-- How the device-mode service ends. -/
  serviceEnd : ScriptedAction

namespace Script

/-- Where a scripted board stands in its script. -/
structure Position where
  frequencyHz : Nat
  siliconActions : List ScriptedAction
  mediaActions : List ScriptedAction
  cipherActions : List ScriptedCipher

/-- The beginning of a script. -/
def start (script : Script) : Position :=
  ⟨script.frequencyHz, script.siliconActions, script.mediaActions, script.cipherActions⟩

/-- The next action of a list, and the actions after it. -/
def nextAction (actions : List ScriptedAction) : ScriptedAction × List ScriptedAction :=
  match actions with
  | [] => (.ok (.ok ()), [])
  | action :: rest => (action, rest)

/-- The device-mode service of a script with so many requests for diagnostics to go. -/
def serveFrom (script : Script) : Nat → Position → Session Position
  | 0, position => .ended script.serviceEnd position
  | n + 1, position => .rerun position fun result position =>
    match result with
    | .ok () => serveFrom script n position
    | .error fault =>
      if script.ignoresFailedRerun then serveFrom script n position
      else .ended (.ok (.error fault)) position

/-- The board that acts by a script. -/
def board (script : Script) : Board Position where
  silicon position :=
    let (action, rest) := nextAction position.siliconActions
    (action.map fun _ => script.silicon, { position with siliconActions := rest })
  frequency position := (.ok position.frequencyHz, position)
  setFrequency mhz position :=
    match script.clock with
    | .ignores => (.ok (.ok ()), position)
    | .acts (.ok (.ok ())) => (.ok (.ok ()), { position with frequencyHz := mhz * 1000000 })
    | .acts action => (action, position)
  testMedia _ position :=
    let (action, rest) := nextAction position.mediaActions
    (action, { position with mediaActions := rest })
  encrypt _ _ data position :=
    match position.cipherActions with
    | [] => (.ok (.ok script.ciphertext), position)
    | .answers reply :: rest => (reply, { position with cipherActions := rest })
    | .echoes :: rest => (.ok (.ok data), { position with cipherActions := rest })
  serve _ position := script.serveFrom script.reruns position

end Script

end BoardDiagnostics
