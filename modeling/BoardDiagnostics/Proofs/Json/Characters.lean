import BoardDiagnostics.Json.Number
import BoardDiagnostics.Json.Text
import BoardDiagnostics.Proofs.Json.Grammar

/-!
# Characters of the grammar and of the readers

The readers tell blanks, digits, escapes and surrogates as the grammar does; and what may follow a
value does not go on with it.
-/

set_option autoImplicit false

namespace BoardDiagnostics.Json

/-! ### Digits and exponents -/

/-- The digits stand side by side in the character table. -/
theorem isDigit_iff {c : Char} : isDigit c = true ↔ '0' ≤ c ∧ c ≤ '9' := by
  simp [isDigit]

/-- Spelled digits are read as digits. -/
theorem Digits.isDigit (digits : Digits) : ∀ c ∈ digits.chars, Json.isDigit c = true :=
  fun c member => isDigit_iff.mpr (digits.digits c member)

/-- Either mark of an exponent is read as one. -/
theorem Exponent.isExponentMark (exponent : Exponent) :
    Json.isExponentMark exponent.mark = true := by
  simpa [Json.isExponentMark] using exponent.known

/-! ### Escapes -/

/-- A short escape is read as what it stands for. -/
theorem shortEscape?_of_mem {letter meant : Char} (known : (letter, meant) ∈ shortEscapes) :
    shortEscape? letter = some meant := by
  have all : ∀ escape ∈ shortEscapes, shortEscape? escape.1 = some escape.2 := by decide
  exact all (letter, meant) known

/-- A hexadecimal digit is read as its value, in either case. -/
theorem HexDigit.hexDigit?_char (digit : HexDigit) :
    Text.hexDigit? digit.char = some digit.value := by
  obtain ⟨char, value, small, lower | upper⟩ := digit
  · subst lower
    have all : ∀ value < 16, Text.hexDigit? value.digitChar = some value := by decide
    exact all value small
  · subst upper
    have all : ∀ value < 16, Text.hexDigit? value.digitChar.toUpper = some value := by decide
    exact all value small

/-- Four hexadecimal digits are read as their code unit. -/
theorem unitOfDigits?_chars (a b c d : HexDigit) :
    unitOfDigits? a.char b.char c.char d.char = some (unitOf a b c d) := by
  unfold unitOfDigits?
  rw [a.hexDigit?_char, b.hexDigit?_char, c.hexDigit?_char, d.hexDigit?_char]
  rfl

/-- The reader knows the high surrogates of the grammar. -/
theorem isLeading_iff {unit : Nat} : isLeading unit = true ↔ IsHigh unit := by
  unfold isLeading IsHigh
  simp only [Bool.and_eq_true, decide_eq_true_eq]
  omega

/-- The reader knows the low surrogates of the grammar. -/
theorem isTrailing_iff {unit : Nat} : isTrailing unit = true ↔ IsLow unit := by
  unfold isTrailing IsLow
  simp only [Bool.and_eq_true, decide_eq_true_eq]
  omega

/-- The reader pairs surrogates as the grammar does. -/
theorem charOfPair_eq (high low : Nat) : charOfPair high low = ofPair high low := by
  have same : (high - 0xd800) * 0x400 + (low - 0xdc00) + 0x10000 =
      0x10000 + (high - 0xd800) * 0x400 + (low - 0xdc00) := by omega
  exact congrArg Char.ofNat same

/-! ### Blanks -/

/-- Spelled blanks are read as blanks. -/
theorem Blanks.isBlank (blanks : Blanks) : ∀ c ∈ blanks.chars, Json.isBlank c = true := by
  intro c member
  have blank := blanks.blank c member
  simpa [Json.isBlank, or_assoc] using blank

/-- Blanks in front make no difference. -/
theorem skipBlanks_append (blanks : Blanks) (rest : List Char) :
    skipBlanks (blanks.chars ++ rest) = skipBlanks rest := by
  unfold skipBlanks
  exact List.dropWhile_append_of_pos blanks.isBlank

/-- Skipping stops at what is no blank. -/
theorem skipBlanks_cons {c : Char} (dark : isBlank c = false) (rest : List Char) :
    skipBlanks (c :: rest) = c :: rest := by
  simp [skipBlanks, dark]

/-! ### What may follow a value -/

/-- The text does not go on with a value that ends in front of it. -/
def Delimits : List Char → Prop
  | [] => True
  | c :: _ => isBlank c = true ∨ c = ',' ∨ c = ']' ∨ c = '}'

/-- Blanks in front of what ends a value end it as well. -/
theorem delimits_blanks (blanks : Blanks) {rest : List Char} (delimits : Delimits rest) :
    Delimits (blanks.chars ++ rest) := by
  have blank := blanks.isBlank
  cases chars : blanks.chars with
  | nil => exact delimits
  | cons c more => exact .inl (blank c (chars ▸ List.mem_cons_self))

/-- What delimits a number cannot go on with it. -/
theorem not_continues_of_delimits {c : Char} {rest : List Char} (delimits : Delimits (c :: rest)) :
    isDigit c = false ∧ c ≠ '.' ∧ isExponentMark c = false := by
  rcases delimits with blank | rfl | rfl | rfl
  · simp only [isBlank, Bool.or_eq_true, decide_eq_true_eq] at blank
    rcases blank with ((rfl | rfl) | rfl) | rfl <;> decide
  all_goals decide

end BoardDiagnostics.Json
