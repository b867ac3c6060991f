import BoardDiagnostics.Json.Skip

/-!
# JSON values of a known kind

Readers of truth values, whole numbers of a given range, strings and lists of strings.  A value
of another kind is read as far as it takes to name it in the message; a list or an object is
named at its opening bracket.
-/

set_option autoImplicit false

namespace BoardDiagnostics.Json

/-- Read the value in front, which is not of the kind that was expected, and fail. -/
def failKind {α : Type} (expected : String) (cs : List Char) : Except Failure α :=
  let wrong (met : Met) (rest : List Char) : Except Failure α :=
    failHere (.wrongKind met expected) rest
  match cs with
  | [] => failNext .valueExpected []
  | c :: rest =>
    if c = 'n' then
      match readWord ['u', 'l', 'l'] rest with
      | .error failure => .error failure
      | .ok rest => wrong .null rest
    else if c = 't' then
      match readWord ['r', 'u', 'e'] rest with
      | .error failure => .error failure
      | .ok rest => wrong (.boolean true) rest
    else if c = 'f' then
      match readWord ['a', 'l', 's', 'e'] rest with
      | .error failure => .error failure
      | .ok rest => wrong (.boolean false) rest
    else if c = '-' ∨ isDigit c then
      match readNumber (c :: rest) with
      | .error failure => .error failure
      | .ok (number, rest) => wrong number.met rest
    else if c = '"' then
      match readString rest with
      | .error failure => .error failure
      | .ok (s, rest) => wrong (.string s) rest
    else if c = '[' then wrong .sequence (c :: rest)
    else if c = '{' then wrong .map (c :: rest)
    else failNext .valueExpected (c :: rest)

/-- Read a truth value. -/
def readBool (cs : List Char) : Step Bool :=
  match skipBlanks cs with
  | [] => failNext .endInValue []
  | c :: rest =>
    if c = 't' then
      match readWord ['r', 'u', 'e'] rest with
      | .error failure => .error failure
      | .ok rest => .ok (true, rest)
    else if c = 'f' then
      match readWord ['a', 'l', 's', 'e'] rest with
      | .error failure => .error failure
      | .ok rest => .ok (false, rest)
    else failKind "a boolean" (c :: rest)

/-- A range of whole numbers from zero. -/
structure Width where
  /-- How the range is named in messages. -/
  name : String
  /-- The number of bits. -/
  bits : Nat

/-- Read a whole number of a range. -/
def readNatural (width : Width) (cs : List Char) : Step Nat :=
  match skipBlanks cs with
  | [] => failNext .endInValue []
  | c :: rest =>
    if c = '-' ∨ isDigit c then
      match readNumber (c :: rest) with
      | .error failure => .error failure
      | .ok (.natural n, rest) =>
        if n < 1 <<< width.bits then .ok (n, rest)
        else failHere (.wrongValue (.integer (toString n)) width.name) rest
      | .ok (.negative n, rest) =>
        failHere (.wrongValue (Number.negative n).met width.name) rest
      | .ok (.floating x, rest) =>
        failHere (.wrongKind (Number.floating x).met width.name) rest
    else failKind width.name (c :: rest)

/-- Read what follows the first letter of `null`. -/
def readNull {α : Type} (rest : List Char) : Step (Option α) :=
  match readWord ['u', 'l', 'l'] rest with
  | .error failure => .error failure
  | .ok rest => .ok (none, rest)

/-- Read a value or `null`. -/
def readOptional {α : Type} (read : Reader α) (cs : List Char) : Step (Option α) :=
  let cs := skipBlanks cs
  if cs.head? = some 'n' then readNull cs.tail
  else
    match read cs with
    | .error failure => .error failure
    | .ok (a, rest) => .ok (some a, rest)

/-- Read a string. -/
def readText (cs : List Char) : Step String :=
  match skipBlanks cs with
  | [] => failNext .endInValue []
  | c :: rest => if c = '"' then readString rest else failKind "a string" (c :: rest)

/-- Look for the next element of a list: the text in front of it, or nothing at the closing
bracket, which is left unread. -/
def nextElement (isFirst : Bool) (cs : List Char) : Except Failure (Option (List Char)) :=
  match skipBlanks cs with
  | [] => failNext .endInList []
  | c :: rest =>
    if c = ']' then .ok none
    else if isFirst then .ok (some (c :: rest))
    else if c = ',' then
      match skipBlanks rest with
      | [] => failNext .endInValue []
      | d :: rest =>
        if d = ']' then failNext .trailingComma (d :: rest) else .ok (some (d :: rest))
    else failNext .listCommaOrEndExpected (c :: rest)

/-- Read the end of a list of which no more elements are wanted. -/
def endList (cs : List Char) : Except Failure (List Char) :=
  match skipBlanks cs with
  | [] => failNext .endInList []
  | c :: rest =>
    if c = ']' then .ok rest
    else if c = ',' then
      match skipBlanks rest with
      | [] => failNext .trailingText []
      | d :: rest =>
        if d = ']' then failNext .trailingComma (d :: rest)
        else failNext .trailingText (d :: rest)
    else failNext .trailingText (c :: rest)

/-- Read the elements of a list behind its opening bracket, through its closing bracket, at most
so many. -/
def readElementsWithin {α : Type} (read : Reader α) : Nat → Bool → Reader (List α)
  | 0, _, cs => failNext .endInList cs
  | fuel + 1, isFirst, cs =>
    match nextElement isFirst cs with
    | .error failure => .error failure
    | .ok none =>
      match endList cs with
      | .error failure => .error failure
      | .ok rest => .ok ([], rest)
    | .ok (some rest) =>
      match read rest with
      | .error failure => .error failure
      | .ok (a, rest) =>
        match readElementsWithin read fuel false rest with
        | .error failure => .error failure
        | .ok (more, rest) => .ok (a :: more, rest)

/-- Read a list. -/
def readList {α : Type} (read : Reader α) (cs : List Char) : Step (List α) :=
  match skipBlanks cs with
  | [] => failNext .endInValue []
  | c :: rest =>
    if c = '[' then readElementsWithin read (rest.length + 1) true rest
    else failKind "a sequence" (c :: rest)

end BoardDiagnostics.Json
