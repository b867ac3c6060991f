import BoardDiagnostics.Text.Hex

/-!
# Writing JSON

Compact JSON: no blanks, strings escaped only where they have to be.
-/

set_option autoImplicit false

namespace BoardDiagnostics.Json

/-- How one character is written in a string. -/
def writeChar (c : Char) : List Char :=
  if c = '"' then ['\\', '"']
  else if c = '\\' then ['\\', '\\']
  else if c = '\x08' then ['\\', 'b']
  else if c = '\x0c' then ['\\', 'f']
  else if c = '\n' then ['\\', 'n']
  else if c = '\r' then ['\\', 'r']
  else if c = '\t' then ['\\', 't']
  else if c.toNat < 0x20 then
    ['\\', 'u', '0', '0', Nat.digitChar (c.toNat / 16), Nat.digitChar (c.toNat % 16)]
  else [c]

/-- A string. -/
def writeString (s : String) : List Char :=
  '"' :: (s.toList.flatMap writeChar ++ ['"'])

/-- A whole number. -/
def writeNatural (n : Nat) : List Char := Nat.toDigits 10 n

/-- A truth value. -/
def writeBool (b : Bool) : List Char :=
  if b then ['t', 'r', 'u', 'e'] else ['f', 'a', 'l', 's', 'e']

/-- A value or `null`. -/
def writeOptional : Option (List Char) → List Char
  | none => ['n', 'u', 'l', 'l']
  | some value => value

/-- Values with commas between them. -/
def separated : List (List Char) → List Char
  | [] => []
  | [value] => value
  | value :: rest => value ++ ',' :: separated rest

/-- A list. -/
def writeList (values : List (List Char)) : List Char :=
  '[' :: (separated values ++ [']'])

/-- A member of an object. -/
def writeMember (key : String) (value : List Char) : List Char :=
  writeString key ++ ':' :: value

/-- An object, with its members in order. -/
def writeObject (members : List (String × List Char)) : List Char :=
  '{' :: (separated (members.map fun member => writeMember member.1 member.2) ++ ['}'])

end BoardDiagnostics.Json
