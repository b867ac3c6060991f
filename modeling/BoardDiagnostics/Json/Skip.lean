import BoardDiagnostics.Json.Text
import BoardDiagnostics.Json.Number

/-!
# Passing over JSON values

A value that nobody asked for is passed over: its syntax is checked to any depth, and what it
says is not looked at.  The readers below carry a bound on the number of their steps; a bound of
`stepsFor` the text, or any greater one, is never reached.
-/

set_option autoImplicit false

namespace BoardDiagnostics.Json

mutual

/-- Pass over a value. -/
def skipValueWithin : Nat → List Char → Except Failure (List Char)
  | 0, cs => failNext .valueExpected cs
  | fuel + 1, cs =>
    match skipBlanks cs with
    | [] => failNext .endInValue []
    | c :: rest =>
      if c = 'n' then readWord ['u', 'l', 'l'] rest
      else if c = 't' then readWord ['r', 'u', 'e'] rest
      else if c = 'f' then readWord ['a', 'l', 's', 'e'] rest
      else if c = '-' then skipUnsigned rest
      else if isDigit c then skipUnsigned (c :: rest)
      else if c = '"' then skipString rest
      else if c = '[' then
        match skipBlanks rest with
        | [] => failNext .endInList []
        | d :: rest => if d = ']' then .ok rest else skipElementsWithin fuel (d :: rest)
      else if c = '{' then
        match skipBlanks rest with
        | [] => failNext .endInObject []
        | d :: rest => if d = '}' then .ok rest else skipMembersWithin fuel (d :: rest)
      else failNext .valueExpected (c :: rest)

/-- Pass over the elements of an array that has at least one, through its closing bracket. -/
def skipElementsWithin : Nat → List Char → Except Failure (List Char)
  | 0, cs => failNext .valueExpected cs
  | fuel + 1, cs =>
    match skipValueWithin fuel cs with
    | .error failure => .error failure
    | .ok rest =>
      match skipBlanks rest with
      | [] => failNext .endInList []
      | c :: rest =>
        if c = ',' then skipElementsWithin fuel rest
        else if c = ']' then .ok rest
        else failNext .listCommaOrEndExpected (c :: rest)

/-- Pass over the members of an object that has at least one, through its closing brace. -/
def skipMembersWithin : Nat → List Char → Except Failure (List Char)
  | 0, cs => failNext .valueExpected cs
  | fuel + 1, cs =>
    match skipBlanks cs with
    | [] => failNext .endInObject []
    | c :: rest =>
      if c = '"' then
        match skipString rest with
        | .error failure => .error failure
        | .ok rest =>
          match readColon rest with
          | .error failure => .error failure
          | .ok rest =>
            match skipValueWithin fuel rest with
            | .error failure => .error failure
            | .ok rest =>
              match skipBlanks rest with
              | [] => failNext .endInObject []
              | d :: rest =>
                if d = ',' then skipMembersWithin fuel rest
                else if d = '}' then .ok rest
                else failNext .objectCommaOrEndExpected (d :: rest)
      else failNext .keyExpected (c :: rest)

end

/-- So many steps are enough for a text: no character takes more than two. -/
def stepsFor (cs : List Char) : Nat := 2 * cs.length + 2

end BoardDiagnostics.Json
