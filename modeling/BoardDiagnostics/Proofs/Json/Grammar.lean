/-!
# JSON texts and the values they spell

The grammar of JSON as a relation between values and texts, written out in characters of its own and
not in those of a reader.  A value keeps what a reader can tell from it: the members of an object in
their order, repeated ones included, and the literal of a number.  A string that holds half of a
surrogate pair has no characters; it is a string all the same, and may stand where nobody reads it.
-/

set_option autoImplicit false

namespace BoardDiagnostics.Json

/-- Blanks between tokens. -/
structure Blanks where
  chars : List Char
  blank : ∀ c ∈ chars, c = ' ' ∨ c = '\n' ∨ c = '\t' ∨ c = '\r'

/-- No blank at all. -/
def Blanks.none : Blanks := ⟨[], nofun⟩

/-! ### Strings -/

/-- The letters of the short escapes, and what they stand for. -/
def shortEscapes : List (Char × Char) :=
  [('"', '"'), ('\\', '\\'), ('/', '/'), ('b', '\x08'), ('f', '\x0c'), ('n', '\n'), ('r', '\r'),
    ('t', '\t')]

/-- A hexadecimal digit of either case. -/
structure HexDigit where
  char : Char
  value : Nat
  small : value < 16
  known : char = value.digitChar ∨ char = value.digitChar.toUpper

/-- The UTF-16 unit that four digits stand for. -/
def unitOf (a b c d : HexDigit) : Nat :=
  ((a.value * 16 + b.value) * 16 + c.value) * 16 + d.value

/-- The first half of a surrogate pair. -/
def IsHigh (unit : Nat) : Prop := 0xd800 ≤ unit ∧ unit < 0xdc00

/-- The second half of a surrogate pair. -/
def IsLow (unit : Nat) : Prop := 0xdc00 ≤ unit ∧ unit < 0xe000

instance : DecidablePred IsHigh := fun unit =>
  inferInstanceAs (Decidable (0xd800 ≤ unit ∧ unit < 0xdc00))

instance : DecidablePred IsLow := fun unit =>
  inferInstanceAs (Decidable (0xdc00 ≤ unit ∧ unit < 0xe000))

/-- The character of a surrogate pair. -/
def ofPair (high low : Nat) : Char :=
  Char.ofNat (0x10000 + (high - 0xd800) * 0x400 + (low - 0xdc00))

/-- What a string is written with: a character as it is, a short escape or an escape by number. -/
inductive Piece where
  | plain (c : Char) (no_quote : c ≠ '"') (no_escape : c ≠ '\\') (no_control : 0x20 ≤ c.toNat)
  | short (letter meant : Char) (known : (letter, meant) ∈ shortEscapes)
  | unit (a b c d : HexDigit)

namespace Piece

/-- The characters that a piece is written with. -/
def chars : Piece → List Char
  | plain c _ _ _ => [c]
  | short letter _ _ => ['\\', letter]
  | unit a b c d => ['\\', 'u', a.char, b.char, c.char, d.char]

/-- The characters that pieces stand for, unless one of them is half of a surrogate pair without
the other half. -/
def decode? : List Piece → Option (List Char)
  | [] => some []
  | plain c _ _ _ :: rest => (decode? rest).map (c :: ·)
  | short _ meant _ :: rest => (decode? rest).map (meant :: ·)
  | unit a b c d :: rest =>
    if IsLow (unitOf a b c d) then none
    else if IsHigh (unitOf a b c d) then
      match rest with
      | unit a' b' c' d' :: rest =>
        if IsLow (unitOf a' b' c' d') then
          (decode? rest).map (ofPair (unitOf a b c d) (unitOf a' b' c' d') :: ·)
        else none
      | _ => none
    else (decode? rest).map (Char.ofNat (unitOf a b c d) :: ·)

/-- The text that pieces stand for. -/
def text? (pieces : List Piece) : Option String := (decode? pieces).map String.ofList

/-- Pieces behind an opening quote, through the closing quote. -/
def closed (pieces : List Piece) : List Char := pieces.flatMap chars ++ ['"']

end Piece

/-! ### Numbers -/

/-- A digit and maybe more. -/
structure Digits where
  chars : List Char
  nonempty : chars ≠ []
  digits : ∀ c ∈ chars, '0' ≤ c ∧ c ≤ '9'

/-- An exponent; the sign is positive or negative if there is one. -/
structure Exponent where
  mark : Char
  known : mark = 'e' ∨ mark = 'E'
  sign : Option Bool
  digits : Digits

namespace Exponent

/-- The sign of an exponent, if there is one. -/
def signChars : Option Bool → List Char
  | none => []
  | some true => ['+']
  | some false => ['-']

/-- An exponent from its mark on. -/
def chars (exponent : Exponent) : List Char :=
  exponent.mark :: (signChars exponent.sign ++ exponent.digits.chars)

end Exponent

/-- A number as it is written. -/
structure NumberLiteral where
  isNegative : Bool
  whole : Digits
  no_leading_zero : whole.chars.head? = some '0' → whole.chars = ['0']
  fraction : Option Digits
  exponent : Option Exponent

namespace NumberLiteral

/-- A fraction from its point on, if there is one. -/
def fractionChars : Option Digits → List Char
  | none => []
  | some digits => '.' :: digits.chars

/-- An exponent, if there is one. -/
def exponentChars : Option Exponent → List Char
  | none => []
  | some exponent => exponent.chars

/-- The fraction and the exponent, as far as there are any. -/
def tail (literal : NumberLiteral) : List Char :=
  fractionChars literal.fraction ++ exponentChars literal.exponent

/-- A number from its sign on. -/
def chars (literal : NumberLiteral) : List Char :=
  (if literal.isNegative then ['-'] else []) ++ (literal.whole.chars ++ literal.tail)

/-- The number, if it is written without sign, fraction and exponent. -/
def natural? (literal : NumberLiteral) : Option Nat :=
  match literal.isNegative, literal.fraction, literal.exponent with
  | false, none, none => some (Nat.ofDigitChars 10 literal.whole.chars 0)
  | _, _, _ => none

end NumberLiteral

/-! ### Values -/

/-- A JSON value. -/
inductive Value where
  | null
  | boolean (b : Bool)
  | number (literal : NumberLiteral)
  | string (text : Option String)
  | array (elements : List Value)
  | object (members : List (Option String × Value))

/-- The value is an array. -/
def Value.isArray : Value → Bool
  | array _ => true
  | _ => false

/-- An element of an array as it is written. -/
structure Element where
  before : Blanks
  value : Value
  text : List Char
  after : Blanks

/-- An element with the blanks around it. -/
def Element.chars (element : Element) : List Char :=
  element.before.chars ++ (element.text ++ element.after.chars)

/-- A member of an object as it is written. -/
structure Member where
  before : Blanks
  name : List Piece
  gap : Blanks
  element : Element

namespace Member

/-- A member with the blanks around it. -/
def chars (member : Member) : List Char :=
  member.before.chars ++
    '"' :: (Piece.closed member.name ++ (member.gap.chars ++ ':' :: member.element.chars))

/-- The member without its writing. -/
def meant (member : Member) : Option String × Value :=
  (Piece.text? member.name, member.element.value)

end Member

/-- What stands in front of an element, the element, and what stands behind it. -/
theorem Element.chars_append (element : Element) (rest : List Char) :
    element.chars ++ rest =
      element.before.chars ++ (element.text ++ (element.after.chars ++ rest)) := by
  simp [Element.chars]

/-- What stands in front of a member, its name up to the quote, the colon, and its element. -/
theorem Member.chars_append (member : Member) (rest : List Char) :
    member.chars ++ rest = member.before.chars ++ '"' :: (Piece.closed member.name ++
      (member.gap.chars ++ ':' :: (member.element.chars ++ rest))) := by
  simp [Member.chars]

/-- A text of items: each of them stands behind a comma. -/
def behindCommas {α : Type} (chars : α → List Char) (items : List α) : List Char :=
  items.flatMap fun item => ',' :: chars item

/-- A value is spelled by a text. -/
inductive Spells : Value → List Char → Prop where
  | null : Spells .null ['n', 'u', 'l', 'l']
  | truth : Spells (.boolean true) ['t', 'r', 'u', 'e']
  | falsity : Spells (.boolean false) ['f', 'a', 'l', 's', 'e']
  | number (literal : NumberLiteral) : Spells (.number literal) literal.chars
  | string (pieces : List Piece) :
      Spells (.string (Piece.text? pieces)) ('"' :: Piece.closed pieces)
  | emptyArray (inside : Blanks) : Spells (.array []) ('[' :: (inside.chars ++ [']']))
  | array (first : Element) (others : List Element)
      (spelled : ∀ element ∈ first :: others, Spells element.value element.text) :
      Spells (.array ((first :: others).map Element.value))
        ('[' :: (first.chars ++ (behindCommas Element.chars others ++ [']'])))
  | emptyObject (inside : Blanks) : Spells (.object []) ('{' :: (inside.chars ++ ['}']))
  | object (first : Member) (others : List Member)
      (spelled : ∀ member ∈ first :: others, Spells member.element.value member.element.text) :
      Spells (.object ((first :: others).map Member.meant))
        ('{' :: (first.chars ++ (behindCommas Member.chars others ++ ['}'])))

/-- A whole text is a value with blanks around it. -/
def IsDocument (value : Value) (chars : List Char) : Prop :=
  ∃ element : Element, element.value = value ∧ element.chars = chars ∧
    Spells element.value element.text

end BoardDiagnostics.Json
