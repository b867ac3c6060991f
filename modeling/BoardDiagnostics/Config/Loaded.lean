import BoardDiagnostics.Config.Reader
import BoardDiagnostics.Console

/-!
# Loading a configuration

A configuration file may be missing, unreadable, malformed or unusable.  None of that stops a
run: it goes on with the standard configuration and says why.
-/

set_option autoImplicit false

namespace BoardDiagnostics

/-- What is found in the file system under a name, which may be a path through directories that are
there. -/
inductive FileState where
  | absent
  | directory
  | holds (content : Octets)

/-- The longest component of a path, in octets. -/
def longestFileName : Nat := 255

/-- The longest path, in octets. -/
def longestPath : Nat := 4095

/-- A component of a path is too long; the path is read behind so many octets of a component. -/
def hasLongComponent : List Char → Nat → Bool
  | [], size => longestFileName < size
  | c :: rest, size =>
    if c = '/' then longestFileName < size || hasLongComponent rest 0
    else hasLongComponent rest (size + c.utf8Size)

/-- A name is too long for the system. -/
def isLongName (name : String) : Bool :=
  longestPath < name.utf8ByteSize || hasLongComponent name.toList 0

/-- Read a file as text; a failure is told by the message of the system. -/
def FileState.readText (name : String) (state : FileState) : Except String String :=
  if '\x00' ∈ name.toList then .error "file name contained an unexpected NUL byte"
  else if isLongName name then .error "File name too long (os error 36)"
  else
    match state with
    | .absent => .error "No such file or directory (os error 2)"
    | .directory => .error "Is a directory (os error 21)"
    | .holds content =>
      match String.fromUTF8? (ByteArray.mk content.toArray) with
      | none => .error "stream did not contain valid UTF-8"
      | some text => .ok text

namespace Config

/-- Read a configuration from a file. -/
def ofFile (name : String) (state : FileState) : Except Fault Config :=
  match state.readText name with
  | .error reason =>
    .error (.invalidConfig ("failed to read " ++ Text.quoted name ++ ": " ++ reason))
  | .ok text =>
    match ofText text with
    | .error reason =>
      .error (.invalidConfig
        ("failed to parse JSON from " ++ Text.quoted name ++ ": " ++ reason))
    | .ok config =>
      match config.validate with
      | .error fault => .error fault
      | .ok () => .ok config

end Config

/-- A configuration that can be worked with, and where it comes from. -/
structure Loaded where
  config : Config
  /-- The file that was read, if any. -/
  path : Option String
  /-- Why the file was given up for the standard configuration. -/
  fallback : Option Fault
  deriving DecidableEq, Repr

namespace Loaded

/-- The standard configuration, with no file involved. -/
def builtin : Loaded := ⟨.standard, none, none⟩

/-- The configuration of a file, or the standard one if the file cannot be used. -/
def fromFile (name : String) (state : FileState) : Loaded :=
  match Config.ofFile name state with
  | .ok config => ⟨config, some name, none⟩
  | .error fault => ⟨.standard, some name, some fault⟩

/-- The configuration that was chosen when the program was built: that of a file, if one was
named, and the standard one otherwise. -/
def chosen (name : String) (files : String → FileState) : Loaded :=
  if name.isEmpty then builtin else fromFile name (files name)

/-- The line that tells how loading went. -/
def line (loaded : Loaded) : Line :=
  match loaded.path, loaded.fallback with
  | some path, some fault =>
    .warn ("[Config] Failed to load " ++ Text.quoted path ++ ": " ++ fault.message ++
      ". Using defaults.")
  | some path, none => .info ("[Config] Loaded configuration from " ++ Text.quoted path)
  | none, _ => .debug "[Config] Using built-in defaults"

end Loaded

/-- Load the configuration of a file, or the standard one, and write the line that tells how
loading went. -/
def Config.load (name : String) (state : FileState) : Line × Config :=
  let loaded := Loaded.fromFile name state
  (loaded.line, loaded.config)

end BoardDiagnostics
