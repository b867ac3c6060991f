import BoardDiagnostics.Fault

/-!
# The console

Everything a run has to say goes out as lines on one stream, each with a level.  A section
header fills the width of the console with dashes behind its title.
-/

set_option autoImplicit false

namespace BoardDiagnostics

/-- How much a line matters. -/
inductive Level where
  | debug
  | info
  | warn
  | error
  deriving DecidableEq, Repr

namespace Level

/-- The name of a level. -/
def name : Level → String
  | debug => "DEBUG"
  | info => "INFO"
  | warn => "WARN"
  | error => "ERROR"

/-- The console of a finished system shows every line but the debugging ones. -/
def isShown : Level → Bool
  | debug => false
  | info | warn | error => true

end Level

/-- A line on the console. -/
structure Line where
  level : Level
  text : String
  /-- The line was written by a concurrent unit and not by the task that conducts the run. -/
  byUnit : Bool
  deriving DecidableEq, Repr

namespace Line

/-- A line of the conducting task. -/
def debug (text : String) : Line := ⟨.debug, text, false⟩

/-- An informative line of the conducting task. -/
def info (text : String) : Line := ⟨.info, text, false⟩

/-- A warning of the conducting task. -/
def warn (text : String) : Line := ⟨.warn, text, false⟩

/-- An error line of the conducting task. -/
def error (text : String) : Line := ⟨.error, text, false⟩

/-- The same line, written by a concurrent unit. -/
def ofUnit (line : Line) : Line := { line with byUnit := true }

/-- The line that reports a fault met in some context. -/
def ofFault (fault : Fault) (context : String) : Line := error (fault.report context)

end Line

namespace Console

/-- The width of the console in characters. -/
def width : Nat := 70

/-- A line of dashes across the console. -/
def rule : String := String.ofList (List.replicate width '-')

/-- A section header: the title between dashes, padded to the width of the console.  A title
too long for that is kept whole. -/
def sectionHeader (title : String) : String :=
  let head := "-- " ++ title ++ " "
  head ++ String.ofList (List.replicate (width - head.length) '-')

end Console

end BoardDiagnostics
