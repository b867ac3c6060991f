import BoardDiagnostics.Capability.Basic

/-!
# The banner

The line at startup that tells which build runs on which hardware.
-/

set_option autoImplicit false

namespace BoardDiagnostics

/-- Where the program was built and from what. -/
structure Build where
  /-- Operating system and processor of the host, with a slash between them. -/
  host : String
  /-- The compiler of the program. -/
  compiler : String
  /-- The revision of the sources. -/
  revision : String
  /-- The date or number of the build. -/
  build : String
  deriving DecidableEq, Repr

/-- The banner of a build on some hardware. -/
def Build.banner (build : Build) (caps : Capabilities) : String :=
  build.host ++ " (" ++ build.compiler ++ ") • " ++ build.revision ++ " " ++ build.build ++
    " • " ++ caps.model ++ " " ++ toString caps.frequencyMhz ++ " MHz" ++
    (if caps.isPhysical then "" else " (emulated)")

end BoardDiagnostics
