import BoardDiagnostics.Board.Emulated
import BoardDiagnostics.Program

/-!
# The command line

The outer layer of the program: look at the file system, the clock and the random source of the
host, run the diagnostics on the emulated board, and print what they have to say.
-/

set_option autoImplicit false

namespace BoardDiagnostics.CommandLine

/-- The file with the configuration. -/
def configName : String := "bringup.json"

/-- Where the program was built. -/
def build : Build := ⟨"linux/x86_64", "unknown", "", ""⟩

/-- Try something; a failure is told by its message. -/
def attempt {α : Type} (action : IO α) : IO (Except String α) := do
  try
    let a ← action
    return .ok a
  catch e => return .error (toString e)

/-- Look at a file. -/
def lookAt (name : String) : IO FileState := do
  match ← attempt (IO.FS.readBinFile name) with
  | .ok content => return .holds content.toList
  | .error _ =>
    let here ← IO.currentDir
    if ← (here / name).isDir then return .directory else return .absent

/-- Measure how long something takes. -/
def measure (action : IO Unit) : IO Duration := do
  let start ← IO.monoNanosNow
  action
  let finish ← IO.monoNanosNow
  return ⟨finish - start⟩

/-- Random octets. -/
def randomOctets (count : Nat) : IO Octets := do
  let bytes ← IO.getRandomBytes (USize.ofNat count)
  return bytes.toList

/-- A random secret key. -/
def randomSecret : IO Nat := do
  let bytes ← randomOctets 40
  return Octets.toNat bytes % (Secp256k1.n - 1) + 1

/-- So many random samples, or the message of the first failure. -/
def randomSamples (size : Nat) : Nat → IO (List (Except String Octets))
  | 0 => return []
  | count + 1 => do
    let sample ← attempt (randomOctets size)
    let more ← randomSamples size count
    return sample :: more

/-- Do what the file system check does, and write down the answers. -/
def tryFiles : IO FilesCheck.Answers := do
  let mark ← randomOctets 8
  let scratch := "/tmp/bringup-fs-" ++ Text.hex mark
  let plan := FilesCheck.Answers.working scratch
  let makeScratch ← attempt (IO.FS.createDirAll scratch)
  let write ← attempt (IO.FS.writeFile plan.file FilesCheck.message)
  let read ← attempt (IO.FS.readFile plan.file)
  let makeDirectory ← attempt (IO.FS.createDir plan.directory)
  let written ← (List.range FilesCheck.entryCount).mapM fun number =>
    attempt (IO.FS.writeFile (plan.directory ++ "/" ++ FilesCheck.entryName number)
      ("entry " ++ toString number ++ "\n"))
  let here ← IO.currentDir
  let listing ← attempt (here / plan.directory).readDir
  let _ ← attempt (IO.FS.removeDirAll scratch)
  return {
    scratch := scratch
    makeScratch := makeScratch
    write := write
    read := read
    makeDirectory := makeDirectory
    writeEntry := fun number => written.getD number (.ok ())
    listDirectory := listing.map fun entries => entries.toList.map fun entry => .ok entry.fileName }

/-- Look at the host as far as the checks of a configuration need it. -/
def lookAtHost (config : Config) : IO Host := do
  let files ← tryFiles
  let wait := IO.sleep (UInt32.ofNat config.timing.sleepMs.toNat)
  let woke ← measure wait
  let slept ← measure wait
  let shown := config.randomness.samplesLogged.toNat
  let samples ← randomSamples config.randomness.sampleSize.toNat shown
  let signingSecret ← randomSecret
  let scriptingSecret ← randomSecret
  return {
    files := files
    woke := fun _ => woke
    slept := fun _ => slept
    randomSource := fun _ draw => samples.getD draw (.ok [])
    randomTime := .zero
    signingSecret := signingSecret
    signingTime := .zero
    scriptingSecret := scriptingSecret }

/-- The surroundings of a run on this host. -/
def lookAround (config : Config) : IO Surroundings := do
  let host ← lookAtHost config
  let words ← randomSamples 8 64
  let entropy := Uniform.Supply.ofList (words.map fun word =>
    match word with
    | .ok bytes => UInt64.ofNat (Octets.toNat bytes)
    | .error _ => 0)
  let conditions := Program.plainConditions (host.runs config) entropy
  return ⟨fun _ => conditions, 0, .zero⟩

end BoardDiagnostics.CommandLine

open BoardDiagnostics in
/-- Run the diagnostics on the emulated board. -/
def main : IO UInt32 := do
  let state ← CommandLine.lookAt CommandLine.configName
  let loaded := Loaded.chosen CommandLine.configName fun _ => state
  let surroundings ← CommandLine.lookAround loaded.config
  let exit := Program.run loaded CommandLine.build (Emulation.board {} Unit) () surroundings
  for line in exit.shown do
    IO.println line.text
  return UInt32.ofNat exit.code
