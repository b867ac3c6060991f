import BoardDiagnostics.Json.Scalar
import BoardDiagnostics.Proofs.Json.Characters

/-!
# Reading numbers

A literal without sign, fraction and exponent comes to its value as long as that fits 64 bits.
Every other literal comes to a number of another kind or is refused, but never comes to a natural
number.  All literals are passed over.
-/

set_option autoImplicit false

namespace BoardDiagnostics.Json

/-! ### Digits -/

/-- The text does not begin with a digit. -/
def EndsDigits (cs : List Char) : Prop := ∀ c rest, cs = c :: rest → isDigit c = false

/-- What ends a value ends its digits. -/
theorem endsDigits_of_delimits {rest : List Char} (delimits : Delimits rest) : EndsDigits rest := by
  rintro c more rfl
  exact (not_continues_of_delimits delimits).1

/-- The mark of an exponent is neither a digit nor a point. -/
theorem isDigit_of_isExponentMark {c : Char} (mark : isExponentMark c = true) :
    isDigit c = false ∧ c ≠ '.' := by
  simp only [isExponentMark, Bool.or_eq_true, decide_eq_true_eq] at mark
  rcases mark with rfl | rfl
  · decide
  · decide

/-- A number goes on behind its fraction with an exponent or not at all. -/
theorem head_exponent (exponent : Option Exponent) {rest : List Char} (delimits : Delimits rest) :
    ∀ c more, NumberLiteral.exponentChars exponent ++ rest = c :: more →
      isDigit c = false ∧ c ≠ '.' := by
  intro c more head
  cases exponent with
  | none =>
    have head : rest = c :: more := head
    rw [head] at delimits
    obtain ⟨no_digit, no_point, -⟩ := not_continues_of_delimits delimits
    exact ⟨no_digit, no_point⟩
  | some exponent =>
    cases head
    exact isDigit_of_isExponentMark exponent.isExponentMark

/-- Digits end at an exponent, or behind the number. -/
theorem endsDigits_exponent (exponent : Option Exponent) {rest : List Char}
    (delimits : Delimits rest) : EndsDigits (NumberLiteral.exponentChars exponent ++ rest) :=
  fun c more head => (head_exponent exponent delimits c more head).1

/-- The digits of the whole part end at the tail of the number. -/
theorem endsDigits_tail (literal : NumberLiteral) {rest : List Char} (delimits : Delimits rest) :
    EndsDigits (literal.tail ++ rest) := by
  unfold NumberLiteral.tail
  rw [List.append_assoc]
  cases literal.fraction with
  | none => exact endsDigits_exponent literal.exponent delimits
  | some fraction =>
    rintro c more ⟨⟩
    decide

/-- Dropping digits drops the spelled ones and no more. -/
theorem dropWhile_isDigit {digits rest : List Char} (all : ∀ c ∈ digits, isDigit c = true)
    (ends : EndsDigits rest) : (digits ++ rest).dropWhile isDigit = rest := by
  rw [List.dropWhile_append_of_pos all]
  cases rest with
  | nil => rfl
  | cons c more => simp [ends c more rfl]

/-- Further digits never make a number smaller. -/
theorem le_ofDigitChars (digits : List Char) (start : Nat) :
    start ≤ Nat.ofDigitChars 10 digits start := by
  induction digits generalizing start with
  | nil => exact Nat.le_refl _
  | cons c rest ih =>
    rw [Nat.ofDigitChars_cons]
    have := ih (10 * start + (c.toNat - '0'.toNat))
    omega

/-- A digit is taken as long as the number fits its 64 bits. -/
theorem takeDigits_cons (start : Nat) (c : Char) (rest : List Char) :
    takeDigits start (c :: rest) =
      if isDigit c ∧ start * 10 + digitValue c ≤ greatestNatural then
        let more := takeDigits (start * 10 + digitValue c) rest
        (more.1, more.2.1 + 1, more.2.2)
      else (start, 0, c :: rest) := rfl

/-- A first digit counts behind what was read before it. -/
theorem ofDigitChars_step (start : Nat) (c : Char) (rest : List Char) :
    Nat.ofDigitChars 10 (c :: rest) start =
      Nat.ofDigitChars 10 rest (start * 10 + digitValue c) := by
  rw [Nat.ofDigitChars_cons, Nat.mul_comm]
  rfl

/-- All digits of a number that fits are taken, and the number is theirs. -/
theorem takeDigits_of_fits {digits rest : List Char} (all : ∀ c ∈ digits, isDigit c = true)
    (ends : EndsDigits rest) {start : Nat}
    (fits : Nat.ofDigitChars 10 digits start ≤ greatestNatural) :
    takeDigits start (digits ++ rest) =
      (Nat.ofDigitChars 10 digits start, digits.length, rest) := by
  induction digits generalizing start with
  | nil =>
    cases rest with
    | nil => rfl
    | cons c more =>
      rw [List.nil_append, takeDigits_cons, ends c more rfl, if_neg (by simp)]
      rfl
  | cons c digits ih =>
    rw [ofDigitChars_step] at fits ⊢
    have digit : isDigit c = true := all c List.mem_cons_self
    have small := Nat.le_trans (le_ofDigitChars digits (start * 10 + digitValue c)) fits
    have more := ih (fun d member => all d (List.mem_cons_of_mem _ member)) fits
    rw [List.cons_append, takeDigits_cons, if_pos ⟨digit, small⟩, more]
    rfl

/-- Digits that do not fit leave a digit behind. -/
theorem takeDigits_of_overflow {digits : List Char} (rest : List Char)
    (all : ∀ c ∈ digits, isDigit c = true) {start : Nat} (small : start ≤ greatestNatural)
    (overflows : greatestNatural < Nat.ofDigitChars 10 digits start) :
    ∃ value count d more, takeDigits start (digits ++ rest) = (value, count, d :: more) ∧
      isDigit d = true := by
  induction digits generalizing start with
  | nil => exact absurd overflows (Nat.not_lt.mpr small)
  | cons c digits ih =>
    rw [ofDigitChars_step] at overflows
    have digit : isDigit c = true := all c List.mem_cons_self
    rw [List.cons_append, takeDigits_cons]
    by_cases fits : start * 10 + digitValue c ≤ greatestNatural
    · obtain ⟨value, count, d, more, taken, left⟩ :=
        ih (fun d member => all d (List.mem_cons_of_mem _ member)) fits overflows
      rw [if_pos ⟨digit, fits⟩, taken]
      exact ⟨_, _, _, _, rfl, left⟩
    · rw [if_neg fun both => fits both.2]
      exact ⟨_, _, _, _, rfl, digit⟩

/-! ### Numbers that are not natural -/

/-- The reading did not come to a natural number. -/
def Unnatural (step : Step Number) : Prop := ∀ n rest, step ≠ .ok (.natural n, rest)

/-- A failure is no natural number. -/
theorem unnatural_error (failure : Failure) : Unnatural (.error failure) := nofun

/-- A floating-point number is no natural number. -/
theorem unnatural_floating (x : Float) (rest : List Char) : Unnatural (.ok (.floating x, rest)) :=
  nofun

/-- What ends as a floating-point number is no natural number. -/
theorem unnatural_endFloat (isPositive : Bool) (significand : Nat) (exponent : Int)
    (rest : List Char) : Unnatural (endFloat isPositive significand exponent rest) := by
  unfold endFloat
  split
  · exact unnatural_floating _ _
  · exact unnatural_error _

/-- A number with an exponent is not read as a natural one. -/
theorem unnatural_readExponent (isPositive : Bool) (significand : Nat) (start : Int)
    (cs : List Char) : Unnatural (readExponent isPositive significand start cs) := by
  unfold readExponent
  split
  split
  · exact unnatural_error _
  · split
    · split
      · exact unnatural_endFloat _ _ _ _
      · split
        · exact unnatural_error _
        · exact unnatural_floating _ _
    · exact unnatural_error _

/-- Once an exponent is all that may follow, a number is not read as a natural one. -/
theorem unnatural_readExponentPart (isPositive : Bool) (significand : Nat) (exponent : Int)
    (cs : List Char) : Unnatural (readExponentPart isPositive significand exponent cs) := by
  unfold readExponentPart
  split
  · exact unnatural_endFloat _ _ _ _
  · split
    · exact unnatural_readExponent _ _ _ _
    · exact unnatural_endFloat _ _ _ _

/-- A number with a fraction is not read as a natural one. -/
theorem unnatural_readFraction (isPositive : Bool) (significand : Nat) (exponent : Int)
    (cs : List Char) : Unnatural (readFraction isPositive significand exponent cs) := by
  unfold readFraction
  split
  split
  · split
    · exact unnatural_error _
    · exact unnatural_endFloat _ _ _ _
  · split
    · exact unnatural_readExponentPart _ _ _ _
    · split
      · exact unnatural_error _
      · exact unnatural_readExponentPart _ _ _ _

/-- A number with more digits than fit is not read as a natural one. -/
theorem unnatural_readLongTail (isPositive : Bool) (significand : Nat) (cs : List Char) :
    Unnatural (readLongTail isPositive significand cs) := by
  unfold readLongTail
  split
  · exact unnatural_endFloat _ _ _ _
  · split
    · exact unnatural_readFraction _ _ _ _
    · exact unnatural_readExponentPart _ _ _ _

/-- A negative number is not read as a natural one, whatever its tail. -/
theorem unnatural_readNumberTail_negative (significand : Nat) (cs : List Char) :
    Unnatural (readNumberTail false significand cs) := by
  have whole : ∀ rest, Unnatural (.ok (wholeNumber false significand, rest)) := by
    intro rest
    unfold wholeNumber
    rw [if_neg Bool.false_ne_true]
    split
    · exact unnatural_floating _ _
    · nofun
  unfold readNumberTail
  split
  · exact whole _
  · split
    · exact unnatural_readFraction _ _ _ _
    · split
      · exact unnatural_readExponent _ _ _ _
      · exact whole _

/-- No text behind a minus is read as a natural number. -/
theorem unnatural_readUnsigned_negative (cs : List Char) : Unnatural (readUnsigned false cs) := by
  unfold readUnsigned
  split
  · exact unnatural_error _
  · split
    · split
      · exact unnatural_readNumberTail_negative _ _
      · split
        · exact unnatural_error _
        · exact unnatural_readNumberTail_negative _ _
    · split
      · split
        split
        · exact unnatural_readNumberTail_negative _ _
        · split
          · exact unnatural_readLongTail _ _ _
          · exact unnatural_readNumberTail_negative _ _
      · exact unnatural_error _

/-! ### Literals -/

namespace NumberLiteral

variable (literal : NumberLiteral)

/-- Nothing follows the digits of a natural number. -/
theorem tail_of_natural? {n : Nat} (natural : literal.natural? = some n) :
    literal.isNegative = false ∧ literal.tail = [] ∧
      Nat.ofDigitChars 10 literal.whole.chars 0 = n := by
  unfold natural? at natural
  split at natural
  · next positive no_fraction no_exponent =>
    refine ⟨positive, ?_, Option.some.inj natural⟩
    unfold tail
    rw [no_fraction, no_exponent]
    rfl
  · cases natural

/-- What follows the digits of another number begins with its point or its exponent. -/
theorem tail_of_natural?_eq_none (positive : literal.isNegative = false)
    (unnatural : literal.natural? = none) :
    ∃ c more, literal.tail = c :: more ∧ isDigit c = false ∧
      (c = '.' ∨ isExponentMark c = true) := by
  unfold tail
  cases fraction : literal.fraction with
  | some digits => exact ⟨_, _, rfl, by decide, .inl rfl⟩
  | none =>
    cases power : literal.exponent with
    | some exponent =>
      have mark := exponent.isExponentMark
      exact ⟨_, _, rfl, (isDigit_of_isExponentMark mark).1, .inr mark⟩
    | none =>
      unfold natural? at unnatural
      rw [positive, fraction, power] at unnatural
      cases unnatural

end NumberLiteral

/-- A number without a tail is read as it stands. -/
theorem readNumberTail_of_delimits {rest : List Char} (delimits : Delimits rest) (n : Nat) :
    readNumberTail true n rest = .ok (.natural n, rest) := by
  cases rest with
  | nil => rfl
  | cons c more =>
    obtain ⟨-, no_point, no_mark⟩ := not_continues_of_delimits delimits
    simp [readNumberTail, no_point, no_mark, wholeNumber]

/-- A number with a fraction or an exponent is not read as a natural one. -/
theorem unnatural_readNumberTail {c : Char} (goes_on : c = '.' ∨ isExponentMark c = true) (n : Nat)
    (cs : List Char) : Unnatural (readNumberTail true n (c :: cs)) := by
  unfold readNumberTail
  split
  · exact absurd goes_on (by simp_all)
  · next d more same =>
    cases same
    split
    · exact unnatural_readFraction _ _ _ _
    · next no_point =>
      rw [if_pos (goes_on.resolve_left no_point)]
      exact unnatural_readExponent _ _ _ _

/-- A zero in front is the whole part. -/
theorem readUnsigned_zero {rest : List Char} (ends : EndsDigits rest) :
    readUnsigned true ('0' :: rest) = readNumberTail true 0 rest := by
  cases rest with
  | nil => rfl
  | cons d more => simp [readUnsigned, ends d more rfl]

section

variable {c : Char} {digits rest : List Char} (digit : isDigit c = true) (nonzero : c ≠ '0')
  (all : ∀ d ∈ digits, isDigit d = true)

include digit nonzero all

/-- Digits whose number fits are the whole part. -/
theorem readUnsigned_of_fits (ends : EndsDigits rest)
    (fits : Nat.ofDigitChars 10 (c :: digits) 0 ≤ greatestNatural) :
    readUnsigned true (c :: (digits ++ rest)) =
      readNumberTail true (Nat.ofDigitChars 10 (c :: digits) 0) rest := by
  have first : Nat.ofDigitChars 10 (c :: digits) 0 =
      Nat.ofDigitChars 10 digits (digitValue c) := by
    rw [ofDigitChars_step, Nat.zero_mul, Nat.zero_add]
  rw [first] at fits ⊢
  unfold readUnsigned
  simp only [if_neg nonzero, if_pos digit, takeDigits_of_fits all ends fits]
  cases rest with
  | nil => rfl
  | cons d more => simp [ends d more rfl]

/-- Digits whose number does not fit are not read as a natural number. -/
theorem unnatural_readUnsigned_of_overflow (rest : List Char)
    (overflows : greatestNatural < Nat.ofDigitChars 10 (c :: digits) 0) :
    Unnatural (readUnsigned true (c :: (digits ++ rest))) := by
  rw [ofDigitChars_step, Nat.zero_mul, Nat.zero_add] at overflows
  have small : digitValue c ≤ greatestNatural := by
    simp only [isDigit, Bool.and_eq_true, decide_eq_true_eq] at digit
    have : c.toNat ≤ '9'.toNat := digit.2
    have : digitValue c ≤ '9'.toNat := by unfold digitValue; omega
    exact Nat.le_trans this (by decide)
  obtain ⟨value, count, d, more, taken, left⟩ := takeDigits_of_overflow rest all small overflows
  unfold readUnsigned
  simp only [if_neg nonzero, if_pos digit, taken, if_pos left]
  exact unnatural_readLongTail _ _ _

end

/-- The digits of a literal behind its sign, and what follows them. -/
theorem readUnsigned_whole (literal : NumberLiteral) {rest : List Char} (ends : EndsDigits rest) :
    (Nat.ofDigitChars 10 literal.whole.chars 0 ≤ greatestNatural →
      readUnsigned true (literal.whole.chars ++ rest) =
        readNumberTail true (Nat.ofDigitChars 10 literal.whole.chars 0) rest) ∧
    (greatestNatural < Nat.ofDigitChars 10 literal.whole.chars 0 →
      Unnatural (readUnsigned true (literal.whole.chars ++ rest))) := by
  have all := literal.whole.isDigit
  obtain ⟨_, ⟨chars, nonempty, _⟩, no_leading_zero, _, _⟩ := literal
  cases chars with
  | nil => exact absurd rfl nonempty
  | cons c digits =>
    have digit : isDigit c = true := all c List.mem_cons_self
    have others : ∀ d ∈ digits, isDigit d = true :=
      fun d member => all d (List.mem_cons_of_mem _ member)
    by_cases zero : c = '0'
    · subst zero
      have alone : digits = [] := by
        have only : '0' :: digits = ['0'] := no_leading_zero rfl
        exact List.cons.inj only |>.2
      subst alone
      have small : ¬ greatestNatural < Nat.ofDigitChars 10 ['0'] 0 := by decide
      exact ⟨fun _ => readUnsigned_zero ends, fun overflows => absurd overflows small⟩
    · exact ⟨readUnsigned_of_fits digit zero others ends,
        unnatural_readUnsigned_of_overflow digit zero others rest⟩

section

variable (literal : NumberLiteral) {rest : List Char}

/-- A number without a minus is read from its whole part on. -/
theorem readNumber_positive (positive : literal.isNegative = false) :
    readNumber (literal.chars ++ rest) =
      readUnsigned true (literal.whole.chars ++ (literal.tail ++ rest)) := by
  unfold NumberLiteral.chars
  rw [positive]
  have all := literal.whole.isDigit
  obtain ⟨_, ⟨chars, nonempty, _⟩, _, _, _⟩ := literal
  cases chars with
  | nil => exact absurd rfl nonempty
  | cons c digits =>
    have digit : isDigit c = true := all c List.mem_cons_self
    have no_sign : c ≠ '-' := by
      rintro rfl
      exact absurd digit (by decide)
    simp [readNumber, no_sign]

/-- A number with a minus is read from behind it. -/
theorem readNumber_negative (negative : literal.isNegative = true) :
    readNumber (literal.chars ++ rest) =
      readUnsigned false (literal.whole.chars ++ (literal.tail ++ rest)) := by
  unfold NumberLiteral.chars
  rw [negative]
  simp [readNumber]

/-- A literal of a natural number that fits is read as that number. -/
theorem readNumber_of_natural (delimits : Delimits rest) {n : Nat}
    (natural : literal.natural? = some n) (fits : n ≤ greatestNatural) :
    readNumber (literal.chars ++ rest) = .ok (.natural n, rest) := by
  obtain ⟨positive, no_tail, rfl⟩ := literal.tail_of_natural? natural
  rw [readNumber_positive literal positive, no_tail]
  have ends := endsDigits_of_delimits delimits
  exact ((readUnsigned_whole literal ends).1 fits).trans (readNumberTail_of_delimits delimits _)

/-- Every other literal is read as something else, or refused. -/
theorem unnatural_readNumber (delimits : Delimits rest)
    (other : ∀ n, literal.natural? = some n → greatestNatural < n) :
    Unnatural (readNumber (literal.chars ++ rest)) := by
  cases sign : literal.isNegative with
  | true =>
    rw [readNumber_negative literal sign]
    exact unnatural_readUnsigned_negative _
  | false =>
    rw [readNumber_positive literal sign]
    -- The digits are too many for 64 bits, or something follows them.
    have reads := readUnsigned_whole literal (endsDigits_tail literal delimits)
    by_cases fits : Nat.ofDigitChars 10 literal.whole.chars 0 ≤ greatestNatural
    · cases natural : literal.natural? with
      | some n =>
        obtain ⟨-, -, same⟩ := literal.tail_of_natural? natural
        exact absurd (other n natural) (Nat.not_lt.mpr (same ▸ fits))
      | none =>
        obtain ⟨c, more, tail, -, goes_on⟩ := literal.tail_of_natural?_eq_none sign natural
        rw [reads.1 fits, tail]
        exact unnatural_readNumberTail goes_on _ _
    · exact reads.2 (Nat.lt_of_not_le fits)

end

/-! ### Numbers that are passed over -/

/-- Skipping passes over an exponent, if there is one. -/
theorem skipExponentPart_chars (exponent : Option Exponent) {rest : List Char}
    (delimits : Delimits rest) :
    skipExponentPart (NumberLiteral.exponentChars exponent ++ rest) = .ok rest := by
  have ends := endsDigits_of_delimits delimits
  cases exponent with
  | none =>
    cases rest with
    | nil => rfl
    | cons c more =>
      have no_mark := (not_continues_of_delimits delimits).2.2
      simp [NumberLiteral.exponentChars, skipExponentPart, no_mark]
  | some exponent =>
    have known := exponent.isExponentMark
    have all := exponent.digits.isDigit
    cases chars : exponent.digits.chars with
    | nil => exact absurd chars exponent.digits.nonempty
    | cons c digits =>
      rw [chars] at all
      have digit : isDigit c = true := all c List.mem_cons_self
      have others : ∀ d ∈ digits, isDigit d = true :=
        fun d member => all d (List.mem_cons_of_mem _ member)
      have unsigned : c ≠ '+' ∧ c ≠ '-' := by
        constructor
        · rintro rfl
          exact absurd digit (by decide)
        · rintro rfl
          exact absurd digit (by decide)
      have signed : ∀ sign, (takeSign (Exponent.signChars sign ++ c :: (digits ++ rest))).2 =
          c :: (digits ++ rest) := by
        rintro (_ | _ | _)
        · simp [Exponent.signChars, takeSign, unsigned]
        · rfl
        · rfl
      have text : NumberLiteral.exponentChars (some exponent) ++ rest =
          exponent.mark :: (Exponent.signChars exponent.sign ++ c :: (digits ++ rest)) := by
        simp [NumberLiteral.exponentChars, Exponent.chars, chars]
      rw [text]
      unfold skipExponentPart skipExponent
      simp only [if_pos known, signed, if_pos digit, dropWhile_isDigit others ends]

/-- Skipping passes over fraction and exponent. -/
theorem skipNumberTail_tail (literal : NumberLiteral) {rest : List Char}
    (delimits : Delimits rest) : skipNumberTail (literal.tail ++ rest) = .ok rest := by
  have exponent := skipExponentPart_chars literal.exponent delimits
  have ends := endsDigits_exponent literal.exponent delimits
  have head := head_exponent literal.exponent delimits
  unfold NumberLiteral.tail
  rw [List.append_assoc]
  generalize NumberLiteral.exponentChars literal.exponent ++ rest = left at exponent ends head
  cases literal.fraction with
  | none =>
    cases left with
    | nil => exact exponent
    | cons c more =>
      show skipNumberTail (c :: more) = _
      unfold skipNumberTail
      simp only [if_neg (head c more rfl).2]
      exact exponent
  | some fraction =>
    have all := fraction.isDigit
    obtain ⟨chars, nonempty, _⟩ := fraction
    cases chars with
    | nil => exact absurd rfl nonempty
    | cons c digits =>
      have digit : isDigit c = true := all c List.mem_cons_self
      have others : ∀ d ∈ digits, isDigit d = true :=
        fun d member => all d (List.mem_cons_of_mem _ member)
      show skipNumberTail ('.' :: c :: (digits ++ left)) = _
      unfold skipNumberTail
      simp only [if_pos, if_pos digit, dropWhile_isDigit others ends]
      exact exponent

/-- Skipping passes over a number without its minus. -/
theorem skipUnsigned_whole (literal : NumberLiteral) {rest : List Char} (delimits : Delimits rest) :
    skipUnsigned (literal.whole.chars ++ (literal.tail ++ rest)) = .ok rest := by
  have tail := skipNumberTail_tail literal delimits
  have ends := endsDigits_tail literal delimits
  generalize literal.tail ++ rest = left at tail ends
  have all := literal.whole.isDigit
  obtain ⟨_, ⟨chars, nonempty, _⟩, no_leading_zero, _, _⟩ := literal
  cases chars with
  | nil => exact absurd rfl nonempty
  | cons c digits =>
    have digit : isDigit c = true := all c List.mem_cons_self
    have others : ∀ d ∈ digits, isDigit d = true :=
      fun d member => all d (List.mem_cons_of_mem _ member)
    show skipUnsigned (c :: (digits ++ left)) = _
    unfold skipUnsigned
    by_cases zero : c = '0'
    · subst zero
      have alone : digits = [] := by
        have only : '0' :: digits = ['0'] := no_leading_zero rfl
        exact List.cons.inj only |>.2
      subst alone
      cases left with
      | nil => exact tail
      | cons d more => simpa [ends d more rfl] using tail
    · simp only [if_neg zero, if_pos digit, dropWhile_isDigit others ends]
      exact tail

end BoardDiagnostics.Json
