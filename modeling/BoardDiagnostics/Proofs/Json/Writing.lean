import BoardDiagnostics.Json.Writer
import BoardDiagnostics.Proofs.Json.Grammar
import Mathlib.Tactic.SplitIfs

/-!
# What is written spells its value

Every text that is written is one of the texts by which the grammar spells the value: a string with
the escapes that its characters need, a number with no digit too many, and lists and objects without
blanks.
-/

set_option autoImplicit false

namespace BoardDiagnostics.Json

/-! ### Strings -/

/-- The digit with which a small number is written. -/
def HexDigit.ofValue (value : Nat) (small : value < 16) : HexDigit :=
  ⟨value.digitChar, value, small, .inl rfl⟩

namespace Piece

/-- The piece with which a character is written. -/
def ofChar (c : Char) : Piece :=
  if no_quote : c = '"' then .short '"' '"' (by decide)
  else if no_escape : c = '\\' then .short '\\' '\\' (by decide)
  else if c = '\x08' then .short 'b' '\x08' (by decide)
  else if c = '\x0c' then .short 'f' '\x0c' (by decide)
  else if c = '\n' then .short 'n' '\n' (by decide)
  else if c = '\r' then .short 'r' '\r' (by decide)
  else if c = '\t' then .short 't' '\t' (by decide)
  else if control : c.toNat < 0x20 then
    .unit (.ofValue 0 (by decide)) (.ofValue 0 (by decide))
      (.ofValue (c.toNat / 16) (by omega)) (.ofValue (c.toNat % 16) (by omega))
  else .plain c no_quote no_escape (Nat.le_of_not_lt control)

/-- A character is written as its piece is spelled. -/
theorem chars_ofChar (c : Char) : (ofChar c).chars = writeChar c := by
  unfold ofChar writeChar
  split_ifs <;> rfl

/-- A control character is written as a unit of its own, which is no half of a pair. -/
theorem decode?_unit_of_control {a b c d : HexDigit} {meant : Char} (control : meant.toNat < 0x20)
    (number : unitOf a b c d = meant.toNat) (rest : List Piece) :
    decode? (.unit a b c d :: rest) = (decode? rest).map (meant :: ·) := by
  have no_low : ¬ IsLow meant.toNat := by unfold IsLow; omega
  have no_high : ¬ IsHigh meant.toNat := by unfold IsHigh; omega
  conv => lhs; unfold decode?
  rw [number, if_neg no_low, if_neg no_high, Char.ofNat_toNat]

/-- The piece of a character means that character. -/
theorem decode?_ofChar (c : Char) (rest : List Piece) :
    decode? (ofChar c :: rest) = (decode? rest).map (c :: ·) := by
  unfold ofChar
  split_ifs with quote escape backspace feed newline carriage tab control
  · rw [decode?, quote]
  · rw [decode?, escape]
  · rw [decode?, backspace]
  · rw [decode?, feed]
  · rw [decode?, newline]
  · rw [decode?, carriage]
  · rw [decode?, tab]
  · refine decode?_unit_of_control control ?_ rest
    simp only [unitOf, HexDigit.ofValue]
    omega
  · rw [decode?]

/-- The pieces with which a text is written. -/
def ofText (text : String) : List Piece := text.toList.map ofChar

/-- The pieces of a text are spelled as the text is written. -/
theorem closed_ofText (text : String) :
    closed (ofText text) = text.toList.flatMap writeChar ++ ['"'] := by
  unfold closed ofText
  rw [List.flatMap_map]
  simp only [chars_ofChar]

/-- The pieces of a text mean that text. -/
theorem text?_ofText (text : String) : text? (ofText text) = some text := by
  have decoded : ∀ cs : List Char, decode? (cs.map ofChar) = some cs := by
    intro cs
    induction cs with
    | nil => rfl
    | cons c cs ih => rw [List.map_cons, decode?_ofChar, ih, Option.map_some]
  rw [text?, ofText, decoded, Option.map_some, String.ofList_toList]

end Piece

/-- A written text is the text that its pieces spell. -/
theorem writeString_eq (text : String) :
    writeString text = '"' :: Piece.closed (Piece.ofText text) := by
  rw [writeString, Piece.closed_ofText]

/-- A written text spells the text. -/
theorem spells_writeString (text : String) : Spells (.string (some text)) (writeString text) := by
  rw [writeString_eq, ← Piece.text?_ofText text]
  exact .string _

/-! ### Numbers -/

/-- Only zero is written with a zero in front. -/
theorem toDigits_of_leading_zero (n : Nat) (leading : (Nat.toDigits 10 n).head? = some '0') :
    Nat.toDigits 10 n = ['0'] := by
  induction n using Nat.strongRecOn with
  | ind n ih =>
    by_cases small : n < 10
    · rw [Nat.toDigits_of_lt_base small] at leading ⊢
      rw [Option.some.inj leading]
    · -- The digits in front of the last one are those of a tenth of the number, which is not zero.
      obtain ⟨c, more, digits⟩ :=
        List.exists_cons_of_ne_nil (Nat.toDigits_ne_nil (n := n / 10) (b := 10))
      rw [Nat.toDigits_of_base_le (by decide) (Nat.le_of_not_lt small), digits] at leading
      have tenth := ih (n / 10) (by omega) (digits ▸ leading)
      have zero : n / 10 = 0 := calc
        n / 10 = Nat.ofDigitChars 10 (Nat.toDigits 10 (n / 10)) 0 :=
          Nat.ofDigitChars_ten_toDigits.symm
        _ = 0 := congrArg (Nat.ofDigitChars 10 · 0) tenth
      omega

/-- The literal with which a number is written. -/
def NumberLiteral.ofNatural (n : Nat) : NumberLiteral where
  isNegative := false
  whole := {
    chars := Nat.toDigits 10 n
    nonempty := Nat.toDigits_ne_nil
    digits := fun c member => by
      have digit := Nat.isDigit_of_mem_toDigits (by decide) (by decide) member
      have range : 48 ≤ c.val ∧ c.val ≤ 57 := by simpa [Char.isDigit] using digit
      exact range }
  no_leading_zero := toDigits_of_leading_zero n
  fraction := none
  exponent := none

/-- The literal of a natural number means that number. -/
theorem NumberLiteral.natural?_ofNatural (n : Nat) : (ofNatural n).natural? = some n :=
  congrArg some Nat.ofDigitChars_ten_toDigits

/-- A written number spells its literal. -/
theorem spells_writeNatural (n : Nat) : Spells (.number (.ofNatural n)) (writeNatural n) := by
  have chars : (NumberLiteral.ofNatural n).chars = writeNatural n := by
    simp [NumberLiteral.chars, NumberLiteral.tail, NumberLiteral.fractionChars,
      NumberLiteral.exponentChars, NumberLiteral.ofNatural, writeNatural]
  rw [← chars]
  exact .number _

/-! ### Truth values -/

/-- A written truth spells the truth. -/
theorem spells_writeBool (b : Bool) : Spells (.boolean b) (writeBool b) := by
  cases b with
  | true => exact .truth
  | false => exact .falsity

/-! ### Lists and objects -/

/-- A value with the text that is written for it. -/
structure Written where
  value : Value
  text : List Char
  spells : Spells value text

namespace Written

/-- A truth as it is written. -/
def truth (b : Bool) : Written := ⟨_, _, spells_writeBool b⟩

/-- A number as it is written. -/
def natural (n : Nat) : Written := ⟨_, _, spells_writeNatural n⟩

/-- A text as it is written. -/
def string (text : String) : Written := ⟨_, _, spells_writeString text⟩

/-- Nothing, as it is written. -/
def null : Written := ⟨_, _, .null⟩

/-- The value as an element of a list. -/
def element (written : Written) : Element := ⟨.none, written.value, written.text, .none⟩

/-- A written value stands without blanks. -/
theorem chars_element (written : Written) : written.element.chars = written.text := by
  simp [element, Element.chars, Blanks.none]

/-- The value as a member of an object. -/
def member (key : String) (written : Written) : Member :=
  ⟨.none, Piece.ofText key, .none, written.element⟩

/-- A written member stands without blanks. -/
theorem chars_member (key : String) (written : Written) :
    (member key written).chars = writeMember key written.text := by
  rw [writeMember, writeString_eq, Member.chars]
  simp [member, chars_element, Blanks.none]

/-- A written member is named as it was to be. -/
theorem meant_member (key : String) (written : Written) :
    (member key written).meant = (some key, written.value) := by
  rw [Member.meant]
  exact congrArg (·, written.value) (Piece.text?_ofText key)

end Written

/-- A list is its first item and the rest behind commas. -/
theorem separated_cons {α : Type} (chars : α → List Char) (first : α) (others : List α) :
    separated ((first :: others).map chars) = chars first ++ behindCommas chars others := by
  induction others generalizing first with
  | nil => simp [separated, behindCommas]
  | cons second others ih =>
    rw [List.map_cons, List.map_cons, separated, ← List.map_cons, ih]
    · simp [behindCommas]
    · simp

/-- A written list spells the list of its values. -/
theorem spells_writeList (elements : List Written) :
    Spells (.array (elements.map Written.value)) (writeList (elements.map Written.text)) := by
  cases elements with
  | nil => exact .emptyArray .none
  | cons first others =>
    have spelled : ∀ element ∈ (first :: others).map Written.element,
        Spells element.value element.text := by
      intro element member
      obtain ⟨written, -, rfl⟩ := List.mem_map.mp member
      exact written.spells
    have spells := Spells.array first.element (others.map Written.element) spelled
    have values : (first.element :: others.map Written.element).map Element.value =
        (first :: others).map Written.value := by
      rw [← List.map_cons, List.map_map]
      rfl
    have text : separated ((first :: others).map Written.text) =
        first.element.chars ++ behindCommas Element.chars (others.map Written.element) := by
      have same : Written.text = Element.chars ∘ Written.element :=
        funext fun written => written.chars_element.symm
      rw [same, ← List.map_map, List.map_cons, separated_cons]
    rw [values] at spells
    rw [writeList, text, List.append_assoc]
    exact spells

/-- A written object spells the object of its members. -/
theorem spells_writeObject (members : List (String × Written)) :
    Spells (.object (members.map fun member => (some member.1, member.2.value)))
      (writeObject (members.map fun member => (member.1, member.2.text))) := by
  cases members with
  | nil => exact .emptyObject .none
  | cons first others =>
    let write (member : String × Written) : Member := member.2.member member.1
    have spelled : ∀ member ∈ (first :: others).map write,
        Spells member.element.value member.element.text := by
      intro member inside
      obtain ⟨written, -, rfl⟩ := List.mem_map.mp inside
      exact written.2.spells
    have spells := Spells.object (write first) (others.map write) spelled
    have values : (write first :: others.map write).map Member.meant =
        (first :: others).map fun member => (some member.1, member.2.value) := by
      rw [← List.map_cons, List.map_map]
      exact List.map_congr_left fun member _ => member.2.meant_member member.1
    have text : separated (((first :: others).map fun member => (member.1, member.2.text)).map
        fun member => writeMember member.1 member.2) =
        (write first).chars ++ behindCommas Member.chars (others.map write) := by
      rw [List.map_map, ← separated_cons, ← List.map_cons, List.map_map]
      exact congrArg separated
        (List.map_congr_left fun member _ => (member.2.chars_member member.1).symm)
    rw [values] at spells
    rw [writeObject, text, List.append_assoc]
    exact spells

namespace Written

/-- A list as it is written. -/
def list (elements : List Written) : Written := ⟨_, _, spells_writeList elements⟩

/-- An object as it is written. -/
def object (members : List (String × Written)) : Written := ⟨_, _, spells_writeObject members⟩

end Written

end BoardDiagnostics.Json
