import BoardDiagnostics.Checks.Run

/-!
# The file system check

A file and a directory are written in a directory of their own and read back.  What the file
system answers to each step is given; the check goes on as long as it answers well.
-/

set_option autoImplicit false

namespace BoardDiagnostics.FilesCheck

/-- The text that is written to a file and read back. -/
def message : String := "Hello from the bring-up harness filesystem check\n"

/-- How many files are written to a directory. -/
def entryCount : Nat := 3

/-- The name of one of these files. -/
def entryName (number : Nat) : String := "entry-" ++ toString number ++ ".txt"

/-- What the file system answers; failures are told by its messages. -/
structure Answers where
  /-- The name of the directory of the check. -/
  scratch : String
  makeScratch : Except String Unit
  write : Except String Unit
  read : Except String String
  makeDirectory : Except String Unit
  writeEntry : Nat → Except String Unit
  listDirectory : Except String (List (Except String String))

namespace Answers

variable (answers : Answers)

/-- The name of the file that is read back. -/
def file : String := answers.scratch ++ "/tamago.txt"

/-- The name of the directory that is listed. -/
def directory : String := answers.scratch ++ "/dir"

/-- A step of the check, in a context that names what it is about. -/
def step {α : Type} (context : String) (answer : Except String α) : Except Reasons α :=
  answer.mapError fun reason => (Reasons.of reason).within context

/-- Write a file and read it back: the line about it. -/
def checkFile : Except Reasons Line := do
  step ("writing " ++ answers.file) answers.write
  let text ← step ("reading " ++ answers.file) answers.read
  if text = message then
    .ok (.info ("read " ++ answers.file ++ " (" ++ toString text.utf8ByteSize ++ " bytes)"))
  else
    .error (.of ("read back " ++ toString text.utf8ByteSize ++ " bytes that differ from the " ++
      toString message.utf8ByteSize ++ " written"))

/-- Write the files of a directory. -/
def writeEntries : List Nat → Except Reasons Unit
  | [] => .ok ()
  | number :: rest => do
    step ("writing " ++ answers.directory ++ "/" ++ entryName number) (answers.writeEntry number)
    writeEntries rest

/-- The names in a listing; a name that cannot be read is a failure. -/
def namesOf : List (Except String String) → Except Reasons (List String)
  | [] => .ok []
  | entry :: rest => do
    let name ← entry.mapError Reasons.of
    let names ← namesOf rest
    .ok (name :: names)

/-- Fill a directory and list it: the line about it. -/
def checkDirectory : Except Reasons Line := do
  step ("creating " ++ answers.directory) answers.makeDirectory
  answers.writeEntries (List.range entryCount)
  let listing ← step ("listing " ++ answers.directory) answers.listDirectory
  let found ← namesOf listing
  let names := found.mergeSort fun a b => !decide (b < a)
  if names.length = entryCount then
    .ok (.info ("listed " ++ answers.directory ++ ": " ++ " ".intercalate names))
  else
    .error (.of ("expected " ++ toString entryCount ++ " entries, found " ++
      Text.quotedList names))

end Answers

/-- Check the file system. -/
def run (answers : Answers) : CheckRun :=
  match Answers.step ("creating scratch directory " ++ answers.scratch) answers.makeScratch with
  | .error reasons => .ended [] (.error reasons)
  | .ok () =>
    match answers.checkFile with
    | .error reasons => .ended [] (.error reasons)
    | .ok fileLine =>
      match answers.checkDirectory with
      | .error reasons => .ended [fileLine] (.error reasons)
      | .ok directoryLine => .ended [fileLine, directoryLine] (.ok ())

/-- The answers of a file system on which everything works. -/
def Answers.working (scratch : String) : Answers where
  scratch := scratch
  makeScratch := .ok ()
  write := .ok ()
  read := .ok message
  makeDirectory := .ok ()
  writeEntry _ := .ok ()
  listDirectory := .ok ((List.range entryCount).map fun number => .ok (entryName number))

end BoardDiagnostics.FilesCheck
