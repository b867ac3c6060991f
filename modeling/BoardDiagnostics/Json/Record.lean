import BoardDiagnostics.Json.Scalar

/-!
# JSON records

A record is read from an object, whose members may come in any order, with unknown members
passed over, or from a list that gives the fields in their order and may stop early.  A field
that is not given keeps its standard value, and a field that is given twice is an error.
-/

set_option autoImplicit false

namespace BoardDiagnostics.Json

/-- A field of a record: its key, and a reader of the change that its value makes. -/
structure RecordField (ρ : Type) where
  key : String
  read : Reader (ρ → ρ)

/-- A field with a reader of its value and the way to set it. -/
def RecordField.of {ρ α : Type} (key : String) (read : Reader α) (set : α → ρ → ρ) :
    RecordField ρ where
  key := key
  read cs :=
    match read cs with
    | .error failure => .error failure
    | .ok (a, rest) => .ok (set a, rest)

/-- A form of records: a name for messages, the fields in order, and the standard record. -/
structure RecordForm (ρ : Type) where
  name : String
  fields : List (RecordField ρ)
  standard : ρ

/-- What comes next in an object. -/
inductive NextMember where
  /-- The closing brace, and the text behind it. -/
  | closed (rest : List Char)
  /-- A key, and the text behind its opening quote. -/
  | key (rest : List Char)

namespace RecordForm

variable {ρ : Type} (form : RecordForm ρ)

/-- Look for the next member of an object. -/
def nextMember (isFirst : Bool) (cs : List Char) : Except Failure NextMember :=
  match skipBlanks cs with
  | [] => failNext .endInObject []
  | c :: rest =>
    if c = '}' then .ok (.closed rest)
    else if isFirst then
      if c = '"' then .ok (.key rest) else failNext .keyExpected (c :: rest)
    else if c = ',' then
      match skipBlanks rest with
      | [] => failNext .endInValue []
      | d :: rest =>
        if d = '"' then .ok (.key rest)
        else if d = '}' then failNext .trailingComma (d :: rest)
        else failNext .keyExpected (d :: rest)
    else failNext .objectCommaOrEndExpected (c :: rest)

/-- Where a repeated member is reported: behind its key, the blanks after it and a brace that
closes the object there. -/
def afterRepeated (cs : List Char) : List Char :=
  match skipBlanks cs with
  | [] => []
  | c :: rest => if c = '}' then rest else c :: rest

/-- Read the members of an object behind its opening brace, given the keys that were met and the
record that they have made.  The bound on the number of steps covers the members, of which each
takes one, and passing over the value of any of them. -/
def readMembersWithin : Nat → Bool → List String → ρ → Reader ρ
  | 0, _, _, _, cs => failNext .endInObject cs
  | fuel + 1, isFirst, met, record, cs =>
    match nextMember isFirst cs with
    | .error failure => .error failure
    | .ok (.closed rest) => .ok (record, rest)
    | .ok (.key rest) =>
      match readString rest with
      | .error failure => .error failure
      | .ok (key, rest) =>
        match form.fields.find? (fun field => field.key = key) with
        | none =>
          match readColon rest with
          | .error failure => .error failure
          | .ok rest =>
            match skipValueWithin fuel rest with
            | .error failure => .error failure
            | .ok rest => readMembersWithin fuel false met record rest
        | some field =>
          if key ∈ met then failHere (.duplicate key) (afterRepeated rest)
          else
            match readColon rest with
            | .error failure => .error failure
            | .ok rest =>
              match field.read rest with
              | .error failure => .error failure
              | .ok (set, rest) => readMembersWithin fuel false (key :: met) (set record) rest

/-- Read the fields of a record from a list behind its opening bracket. -/
def readPositions : List (RecordField ρ) → Bool → ρ → Reader ρ
  | [], _, record, cs =>
    match endList cs with
    | .error failure => .error failure
    | .ok rest => .ok (record, rest)
  | field :: fields, isFirst, record, cs =>
    match nextElement isFirst cs with
    | .error failure => .error failure
    | .ok none =>
      match endList cs with
      | .error failure => .error failure
      | .ok rest => .ok (record, rest)
    | .ok (some rest) =>
      match field.read rest with
      | .error failure => .error failure
      | .ok (set, rest) => readPositions fields false (set record) rest

/-- Read a record. -/
def read (cs : List Char) : Step ρ :=
  match skipBlanks cs with
  | [] => failNext .endInValue []
  | c :: rest =>
    if c = '{' then form.readMembersWithin (stepsFor rest) true [] form.standard rest
    else if c = '[' then readPositions form.fields true form.standard rest
    else failKind ("struct " ++ form.name) (c :: rest)

end RecordForm

/-- Read a text that is one value and nothing more. -/
def readWhole {α : Type} (read : Reader α) (cs : List Char) : Except Failure α :=
  match read cs with
  | .error failure => .error failure
  | .ok (a, rest) =>
    match skipBlanks rest with
    | [] => .ok a
    | rest => failNext .trailingText rest

end BoardDiagnostics.Json
