import BoardDiagnostics.Json.Failure
import BoardDiagnostics.Decimal.Shortest

/-!
# JSON numbers

Reading a number.  A number without fraction and exponent that fits 64 bits is a whole number;
every other one, and minus zero, is a binary64 number.  That one is made from the first digits
that fit 64 bits and one power of ten, multiplied or divided in binary64 arithmetic, so it may
be off by a unit in its last place; a number that would be infinite is out of range.
-/

set_option autoImplicit false

namespace BoardDiagnostics.Json

/-- A number as it was read. -/
inductive Number where
  | natural (n : Nat)
  /-- A whole number below zero, without its sign. -/
  | negative (n : Nat)
  | floating (x : Float)

/-- Numbers in messages are positional from 0.00001 to 15 digits before the point, and whole
numbers keep a zero behind it. -/
def layout : Decimal.Layout := ⟨-5, 15, "+", ".0"⟩

/-- A number, as a message names it. -/
def Number.met : Number → Met
  | natural n => .integer (toString n)
  | negative n => .integer ("-" ++ toString n)
  | floating x => .floating (layout.floatText x)

/-- A decimal digit. -/
def isDigit (c : Char) : Bool := '0' ≤ c && c ≤ '9'

/-- The value of a decimal digit. -/
def digitValue (c : Char) : Nat := c.toNat - '0'.toNat

/-- The greatest whole number that is kept exactly. -/
def greatestNatural : Nat := 0xffffffffffffffff

/-- The digits of a significand that still fit 64 bits behind some that have been read: their
joint value, how many were taken, and the text behind them. -/
def takeDigits (significand : Nat) : List Char → Nat × Nat × List Char
  | [] => (significand, 0, [])
  | c :: rest =>
    if isDigit c ∧ significand * 10 + digitValue c ≤ greatestNatural then
      let (value, count, rest) := takeDigits (significand * 10 + digitValue c) rest
      (value, count + 1, rest)
    else (significand, 0, c :: rest)

/-- A power of ten from `10 ^ 0` to `10 ^ 308` in binary64. -/
def powerOfTen (n : Nat) : Float := Float.ofScientific 1 false n

/-- Scale down by `10 ^ 308` while the exponent is below `-308`, at most so many times. -/
def scaleDown : Nat → Float → Int → Float × Int
  | 0, x, exponent => (x, exponent)
  | fuel + 1, x, exponent =>
    if exponent < -308 ∧ ¬ x == 0.0 then scaleDown fuel (x / powerOfTen 308) (exponent + 308)
    else (x, exponent)

/-- The binary64 number of a significand and a power of ten, unless it is out of range. -/
def floatOfParts? (isPositive : Bool) (significand : Nat) (exponent : Int) : Option Float :=
  let signed := fun (x : Float) => if isPositive then x else -x
  let x := (UInt64.ofNat significand).toFloat
  if 308 < exponent then
    if x == 0.0 then some (signed x) else none
  else if 0 ≤ exponent then
    let y := x * powerOfTen exponent.toNat
    if y.isInf then none else some (signed y)
  else
    let (y, left) := scaleDown 4 x exponent
    if y == 0.0 then some (signed y) else some (signed (y / powerOfTen (-left).toNat))

/-- End a number with the binary64 number of its parts. -/
def endFloat (isPositive : Bool) (significand : Nat) (exponent : Int) (rest : List Char) :
    Step Number :=
  match floatOfParts? isPositive significand exponent with
  | some x => .ok (.floating x, rest)
  | none => failHere .numberOutOfRange rest

/-- The greatest exponent that is read as a number. -/
def greatestExponent : Nat := 0x7fffffff

/-- The digits of an exponent behind its first one: its value, unless that grows too large, and
the text behind the digits or behind the one that was too much. -/
def takeExponent (value : Nat) : List Char → Option Nat × List Char
  | [] => (some value, [])
  | c :: rest =>
    if isDigit c then
      if value * 10 + digitValue c ≤ greatestExponent then
        takeExponent (value * 10 + digitValue c) rest
      else (none, rest)
    else (some value, c :: rest)

/-- An exponent within the range of 32 bits. -/
def clampExponent (exponent : Int) : Int :=
  max (-2147483648) (min exponent 2147483647)

/-- Read the sign of an exponent: whether it is positive. -/
def takeSign : List Char → Bool × List Char
  | [] => (true, [])
  | c :: rest =>
    if c = '+' then (true, rest) else if c = '-' then (false, rest) else (true, c :: rest)

/-- A letter that an exponent begins with. -/
def isExponentMark (c : Char) : Bool := c = 'e' || c = 'E'

/-- Read an exponent behind its letter. -/
def readExponent (isPositive : Bool) (significand : Nat) (start : Int) (cs : List Char) :
    Step Number :=
  let (grows, cs) := takeSign cs
  match cs with
  | [] => failHere .endInValue []
  | c :: rest =>
    if isDigit c then
      match takeExponent (digitValue c) rest with
      | (some value, rest) =>
        let exponent := if grows then start + Int.ofNat value else start - Int.ofNat value
        endFloat isPositive significand (clampExponent exponent) rest
      | (none, rest) =>
        if significand ≠ 0 ∧ grows then failHere .numberOutOfRange rest
        else .ok (.floating (if isPositive then 0.0 else -0.0), rest.dropWhile isDigit)
    else failNext .invalidNumber (c :: rest)

/-- Read an exponent if there is one, and end the number. -/
def readExponentPart (isPositive : Bool) (significand : Nat) (exponent : Int)
    (cs : List Char) : Step Number :=
  match cs with
  | [] => endFloat isPositive significand exponent []
  | c :: rest =>
    if isExponentMark c then readExponent isPositive significand exponent rest
    else endFloat isPositive significand exponent (c :: rest)

/-- Read a fraction behind its point. -/
def readFraction (isPositive : Bool) (significand : Nat) (exponent : Int) (cs : List Char) :
    Step Number :=
  let (value, count, rest) := takeDigits significand cs
  let exponent := exponent - Int.ofNat count
  match rest with
  | [] => if count = 0 then failNext .endInValue [] else endFloat isPositive value exponent []
  | c :: more =>
    if isDigit c then readExponentPart isPositive value exponent (more.dropWhile isDigit)
    else if count = 0 then failNext .invalidNumber (c :: more)
    else readExponentPart isPositive value exponent (c :: more)

/-- A whole number, given its sign and its digits.  Below the range of 64 bits it is a binary64
number, as minus zero is. -/
def wholeNumber (isPositive : Bool) (significand : Nat) : Number :=
  if isPositive then .natural significand
  else if significand = 0 ∨ 0x8000000000000000 < significand then
    .floating (-(UInt64.ofNat significand).toFloat)
  else .negative significand

/-- Read what follows the whole part of a number. -/
def readNumberTail (isPositive : Bool) (significand : Nat) (cs : List Char) : Step Number :=
  match cs with
  | [] => .ok (wholeNumber isPositive significand, [])
  | c :: rest =>
    if c = '.' then readFraction isPositive significand 0 rest
    else if isExponentMark c then readExponent isPositive significand 0 rest
    else .ok (wholeNumber isPositive significand, c :: rest)

/-- Read what follows the whole part of a number, some digits of which did not fit 64 bits. -/
def readLongTail (isPositive : Bool) (significand : Nat) (cs : List Char) : Step Number :=
  let dropped := cs.takeWhile isDigit
  let exponent := Int.ofNat dropped.length
  match cs.dropWhile isDigit with
  | [] => endFloat isPositive significand exponent []
  | c :: rest =>
    if c = '.' then readFraction isPositive significand exponent rest
    else readExponentPart isPositive significand exponent (c :: rest)

/-- Read a number behind its sign. -/
def readUnsigned (isPositive : Bool) (cs : List Char) : Step Number :=
  match cs with
  | [] => failHere .endInValue []
  | c :: rest =>
    if c = '0' then
      match rest with
      | [] => readNumberTail isPositive 0 []
      | d :: more =>
        if isDigit d then failNext .invalidNumber (d :: more)
        else readNumberTail isPositive 0 (d :: more)
    else if isDigit c then
      let (significand, _, tail) := takeDigits (digitValue c) rest
      match tail with
      | [] => readNumberTail isPositive significand []
      | d :: more =>
        if isDigit d then readLongTail isPositive significand (d :: more)
        else readNumberTail isPositive significand (d :: more)
    else failNext .invalidNumber (c :: rest)

/-- Read a number. -/
def readNumber (cs : List Char) : Step Number :=
  match cs with
  | [] => readUnsigned true []
  | c :: rest => if c = '-' then readUnsigned false rest else readUnsigned true (c :: rest)

/-- Pass over the digits of an exponent behind its letter. -/
def skipExponent (cs : List Char) : Except Failure (List Char) :=
  match (takeSign cs).2 with
  | [] => failNext .invalidNumber []
  | c :: rest =>
    if isDigit c then .ok (rest.dropWhile isDigit) else failNext .invalidNumber (c :: rest)

/-- Pass over an exponent if there is one. -/
def skipExponentPart (cs : List Char) : Except Failure (List Char) :=
  match cs with
  | [] => .ok []
  | c :: rest => if isExponentMark c then skipExponent rest else .ok (c :: rest)

/-- Pass over a fraction and an exponent, as far as there are any. -/
def skipNumberTail (cs : List Char) : Except Failure (List Char) :=
  match cs with
  | [] => .ok []
  | c :: rest =>
    if c = '.' then
      match rest with
      | [] => failNext .invalidNumber []
      | d :: more =>
        if isDigit d then skipExponentPart (more.dropWhile isDigit)
        else failNext .invalidNumber (d :: more)
    else skipExponentPart (c :: rest)

/-- Pass over a number behind its sign. -/
def skipUnsigned (cs : List Char) : Except Failure (List Char) :=
  match cs with
  | [] => failNext .invalidNumber []
  | c :: rest =>
    if c = '0' then
      match rest with
      | [] => .ok []
      | d :: more =>
        if isDigit d then failNext .invalidNumber (d :: more) else skipNumberTail (d :: more)
    else if isDigit c then skipNumberTail (rest.dropWhile isDigit)
    else failNext .invalidNumber (c :: rest)

end BoardDiagnostics.Json
