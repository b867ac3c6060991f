import BoardDiagnostics.Config.Loaded
import BoardDiagnostics.Host
import BoardDiagnostics.Orchestrator

/-!
# The program

The diagnostics as a program: load the configuration that was chosen when the program was built,
run an orchestrator once, and end with an exit code.  The console shows everything but debugging
lines, or nothing at all if the configuration says so.
-/

set_option autoImplicit false

namespace BoardDiagnostics.Program

/-- How the program ended. -/
structure Exit where
  code : Nat
  /-- The lines on the console. -/
  shown : List Line

/-- The lines that the console shows. -/
def shown (config : Config) (lines : List Line) : List Line :=
  if config.verbose then lines.filter fun line => line.level.isShown else []

/-- Run the program with a loaded configuration on a board in some state. -/
def run {σ : Type} (loaded : Loaded) (build : Build) (board : Board σ) (start : σ)
    (surroundings : Surroundings) : Exit :=
  match Orchestrator.create loaded.config build start with
  | .error fault => ⟨1, shown loaded.config [loaded.line, .ofFault fault "startup"]⟩
  | .ok orchestrator =>
    let course := Orchestrator.run board surroundings orchestrator
    let lines := loaded.line :: Transcript.lines course.notes
    match course.result with
    | .ok _ => ⟨0, shown loaded.config lines⟩
    | .error fault => ⟨1, shown loaded.config (lines ++ [.ofFault fault "orchestrator"])⟩

/-- Conditions in which the units of a battery run one after another, given how the checks of the
host go and what is random. -/
def plainConditions (runs : HostCheck → CheckRun) (entropy : Uniform.Supply) : Conditions where
  hostChecks := runs
  schedule := []
  pauses _ := []
  entropy := entropy
  memory := .addressed 47
  phaseTimes := ⟨fun _ => .zero, .zero⟩
  runTime _ := .zero
  stressTime := .zero
  mediaTime _ := .zero

end BoardDiagnostics.Program
