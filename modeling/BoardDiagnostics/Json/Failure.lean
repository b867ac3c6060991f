import BoardDiagnostics.Text.Quoted

/-!
# Failures to read JSON

Why a text is not the value that was expected, and where.  A reader that fails keeps the text
it had not read yet; the place is counted from that, in lines and in octets of the last line.
-/

set_option autoImplicit false

namespace BoardDiagnostics.Json

/-- A value met where one of another kind was expected. -/
inductive Met where
  | null
  | boolean (b : Bool)
  /-- A whole number, as its text. -/
  | integer (text : String)
  /-- A number with a fraction or an exponent, or out of the range of whole numbers. -/
  | floating (text : String)
  | string (s : String)
  | sequence
  | map
  deriving DecidableEq, Repr

/-- How a value is named in a message. -/
def Met.text : Met → String
  | null => "null"
  | boolean b => "boolean `" ++ (if b then "true" else "false") ++ "`"
  | integer t => "integer `" ++ t ++ "`"
  | floating t => "floating point `" ++ t ++ "`"
  | string s => "string " ++ Text.quoted s
  | sequence => "sequence"
  | map => "map"

/-- What is wrong with a text. -/
inductive Cause where
  | endInList
  | endInObject
  | endInString
  | endInValue
  | colonExpected
  | listCommaOrEndExpected
  | objectCommaOrEndExpected
  | wordExpected
  | valueExpected
  | invalidEscape
  | invalidNumber
  | numberOutOfRange
  | controlInString
  | keyExpected
  | loneSurrogate
  | trailingComma
  | trailingText
  | endOfEscape
  /-- A value of one kind where another was expected. -/
  | wrongKind (met : Met) (expected : String)
  /-- A value of the expected kind that does not fit. -/
  | wrongValue (met : Met) (expected : String)
  /-- A member that its object has already. -/
  | duplicate (key : String)
  deriving DecidableEq, Repr

/-- The message of a cause. -/
def Cause.message : Cause → String
  | endInList => "EOF while parsing a list"
  | endInObject => "EOF while parsing an object"
  | endInString => "EOF while parsing a string"
  | endInValue => "EOF while parsing a value"
  | colonExpected => "expected `:`"
  | listCommaOrEndExpected => "expected `,` or `]`"
  | objectCommaOrEndExpected => "expected `,` or `\x7d`"
  | wordExpected => "expected ident"
  | valueExpected => "expected value"
  | invalidEscape => "invalid escape"
  | invalidNumber => "invalid number"
  | numberOutOfRange => "number out of range"
  | controlInString => "control character (\\u0000-\\u001F) found while parsing a string"
  | keyExpected => "key must be a string"
  | loneSurrogate => "lone leading surrogate in hex escape"
  | trailingComma => "trailing comma"
  | trailingText => "trailing characters"
  | endOfEscape => "unexpected end of hex escape"
  | wrongKind met expected => "invalid type: " ++ met.text ++ ", expected " ++ expected
  | wrongValue met expected => "invalid value: " ++ met.text ++ ", expected " ++ expected
  | duplicate key => "duplicate field `" ++ key ++ "`"

/-- A failure to read: the cause, the text that was still unread, and how many octets of it
the report counts as read. -/
structure Failure where
  cause : Cause
  rest : List Char
  ahead : Nat
  deriving DecidableEq, Repr

/-- The number of octets of a text in UTF-8. -/
def octetCount : List Char → Nat
  | [] => 0
  | c :: cs => c.utf8Size + octetCount cs

/-- A place in a text: lines count from one, columns are octets since the line began. -/
structure Place where
  line : Nat
  column : Nat
  deriving DecidableEq, Repr

/-- The place that so many octets of a text lead to, from a place before them. -/
def Place.advance (place : Place) (octets : Nat) : List Char → Place
  | [] => place
  | c :: rest =>
    if octets < c.utf8Size then ⟨place.line, place.column + octets⟩
    else
      let next : Place :=
        if c = '\n' then ⟨place.line + 1, 0⟩ else ⟨place.line, place.column + c.utf8Size⟩
      next.advance (octets - c.utf8Size) rest

/-- The place of a failure in the whole text, never past its end. -/
def Failure.place (failure : Failure) (text : List Char) : Place :=
  let total := octetCount text
  let read := total - octetCount failure.rest + failure.ahead
  Place.advance ⟨1, 0⟩ (min read total) text

/-- The message of a failure to read a text. -/
def Failure.message (failure : Failure) (text : List Char) : String :=
  let place := failure.place text
  failure.cause.message ++ " at line " ++ toString place.line ++ " column " ++
    toString place.column

/-- What has been read from the front of a text, and the text behind it. -/
abbrev Step (α : Type) := Except Failure (α × List Char)

/-- A reader of the front of a text. -/
abbrev Reader (α : Type) := List Char → Step α

/-- A failure at the next character, which the report counts as read. -/
def failNext {α : Type} (cause : Cause) (rest : List Char) : Except Failure α :=
  .error ⟨cause, rest, 1⟩

/-- A failure in front of the next character. -/
def failHere {α : Type} (cause : Cause) (rest : List Char) : Except Failure α :=
  .error ⟨cause, rest, 0⟩

/-- The characters between the tokens of a text. -/
def isBlank (c : Char) : Bool := c = ' ' || c = '\n' || c = '\t' || c = '\r'

/-- A text without the blanks in front. -/
def skipBlanks (cs : List Char) : List Char := cs.dropWhile isBlank

/-- Read the rest of a word whose first letter has been read. -/
def readWord : List Char → List Char → Except Failure (List Char)
  | [], cs => .ok cs
  | _ :: _, [] => failHere .endInValue []
  | w :: ws, c :: cs => if c = w then readWord ws cs else failNext .wordExpected (c :: cs)

/-- Read the colon between a key and its value. -/
def readColon (cs : List Char) : Except Failure (List Char) :=
  match skipBlanks cs with
  | [] => failNext .endInObject []
  | c :: rest => if c = ':' then .ok rest else failNext .colonExpected (c :: rest)

end BoardDiagnostics.Json
