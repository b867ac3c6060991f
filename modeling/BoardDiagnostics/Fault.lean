import BoardDiagnostics.Text.Quoted

/-!
# Faults

The nine things that can go wrong in a diagnostic run.  A fault has a number between 3001 and
3009, the component it is charged to, a message for the console, and a full text that repeats
every field in quotes, so that no field can pass for another.
-/

set_option autoImplicit false

namespace BoardDiagnostics

/-- Something that went wrong in a diagnostic run. -/
inductive Fault where
  /-- The board refused a CPU clock change. -/
  | clockAdjust (mhz : Nat) (reason : String)
  /-- The board does not provide a facility. -/
  | unsupported (feature : String)
  /-- A storage medium failed its check. -/
  | mediaIo (target reason : String)
  /-- The hardware cipher failed or gave a wrong result. -/
  | cipher (reason : String)
  /-- A concurrent check broke off. -/
  | checkAborted (name reason : String)
  /-- Fewer completion signals arrived than units were launched. -/
  | signalLost (launched received : Nat)
  /-- The device-mode service failed. -/
  | deviceMode (reason : String)
  /-- The configuration cannot be used. -/
  | invalidConfig (reason : String)
  /-- A sequential step broke off. -/
  | stepAborted (step reason : String)
  deriving DecidableEq, Repr

namespace Fault

/-- The number that console scrapers look for. -/
def code : Fault → Nat
  | clockAdjust .. => 3001
  | unsupported .. => 3002
  | mediaIo .. => 3003
  | cipher .. => 3004
  | checkAborted .. => 3005
  | signalLost .. => 3006
  | deviceMode .. => 3007
  | invalidConfig .. => 3008
  | stepAborted .. => 3009

/-- The kind of a fault as a word. -/
def kind : Fault → String
  | clockAdjust .. => "ClockAdjust"
  | unsupported .. => "Unsupported"
  | mediaIo .. => "MediaIo"
  | cipher .. => "Cipher"
  | checkAborted .. => "CheckAborted"
  | signalLost .. => "SignalLost"
  | deviceMode .. => "DeviceMode"
  | invalidConfig .. => "InvalidConfig"
  | stepAborted .. => "StepAborted"

/-- The component that a fault is charged to. -/
def component : Fault → String
  | clockAdjust .. => "CapabilityProbe"
  | unsupported .. => "Board"
  | mediaIo .. => "SequentialPhase"
  | cipher .. => "Board"
  | checkAborted .. => "ConcurrentPhase"
  | signalLost .. => "ConcurrentPhase"
  | deviceMode .. => "DeviceMode"
  | invalidConfig .. => "Config"
  | stepAborted .. => "SequentialPhase"

/-- A fatal fault ends the whole process; the others are reported and lived with. -/
def isFatal : Fault → Bool
  | checkAborted .. | signalLost .. | deviceMode .. | stepAborted .. => true
  | clockAdjust .. | unsupported .. | mediaIo .. | cipher .. | invalidConfig .. => false

/-- The message for the console. -/
def message : Fault → String
  | clockAdjust mhz reason =>
    "error setting ARM frequency to " ++ toString mhz ++ " MHz: " ++ reason
  | unsupported feature => feature ++ " not supported on this board"
  | mediaIo target reason => "media " ++ target ++ " failed: " ++ reason
  | cipher reason => "hardware cipher failed: " ++ reason
  | checkAborted name reason => "check " ++ name ++ " aborted: " ++ reason
  | signalLost launched received =>
    "completion barrier lost signals: launched " ++ toString launched ++ ", received " ++
      toString received
  | deviceMode reason => "device mode failed: " ++ reason
  | invalidConfig reason => "invalid configuration: " ++ reason
  | stepAborted step reason => "sequential step " ++ step ++ " aborted: " ++ reason

/-- The fields of a fault in order, each under its name, texts in quotes. -/
def fields : Fault → List (String × String)
  | clockAdjust mhz reason => [("mhz", toString mhz), ("reason", Text.quoted reason)]
  | unsupported feature => [("feature", Text.quoted feature)]
  | mediaIo target reason => [("target", Text.quoted target), ("reason", Text.quoted reason)]
  | cipher reason => [("reason", Text.quoted reason)]
  | checkAborted name reason => [("name", Text.quoted name), ("reason", Text.quoted reason)]
  | signalLost launched received =>
    [("launched", toString launched), ("received", toString received)]
  | deviceMode reason => [("reason", Text.quoted reason)]
  | invalidConfig reason => [("reason", Text.quoted reason)]
  | stepAborted step reason => [("step", Text.quoted step), ("reason", Text.quoted reason)]

/-- The kind and the fields of a fault, written as a record. -/
def record (fault : Fault) : String :=
  fault.kind ++ " \x7b " ++
    ", ".intercalate (fault.fields.map fun field => field.1 ++ ": " ++ field.2) ++ " \x7d"

/-- The full text of a fault: its record, its number and its message. -/
def fullText (fault : Fault) : String :=
  "HarnessError::" ++ fault.record ++ " (code " ++ toString fault.code ++ "): " ++ fault.message

/-- The console text that reports a fault met in some context. -/
def report (fault : Fault) (context : String) : String :=
  "Harness error in " ++ context ++ ": code=" ++ toString fault.code ++ ", component=" ++
    fault.component ++ ", message=" ++ fault.message

end Fault

end BoardDiagnostics
