import BoardDiagnostics.Proofs.Json.Skipping

/-!
# Reading values of a known kind

A reader understands a value in a certain way if it comes to that meaning on every text that spells
the value, and leaves the rest of the text; a value without a meaning is refused.
-/

set_option autoImplicit false

namespace BoardDiagnostics.Json

variable {α β : Type}

/-- The reader comes to this meaning of the value, however the value is spelled. -/
def Understands (read : Reader α) (value : Value) (meaning : Option α) : Prop :=
  ∀ text, Spells value text → ∀ (before : Blanks) (rest : List Char), Delimits rest →
    (read (before.chars ++ (text ++ rest))).toOption = meaning.map fun a => (a, rest)

/-! ### What values mean -/

namespace Value

/-- A truth. -/
def truth? : Value → Option Bool
  | boolean b => some b
  | _ => none

/-- A whole number of so many bits, written without sign, fraction and exponent. -/
def natural? (bits : Nat) : Value → Option Nat
  | number literal => literal.natural?.filter (· < 1 <<< bits)
  | _ => none

/-- A text, unless its pieces spell none. -/
def text? : Value → Option String
  | string text => text
  | _ => none

/-- A list of values that all have a meaning. -/
def list? (meaning : Value → Option α) : Value → Option (List α)
  | array elements => elements.mapM meaning
  | _ => none

/-- `null`, or a value with a meaning. -/
def optional? (meaning : Value → Option α) : Value → Option (Option α)
  | null => some none
  | value => (meaning value).map some

/-- The character that a value begins with, unless it is a number. -/
def opening? : Value → Option Char
  | null => some 'n'
  | boolean b => some (if b then 't' else 'f')
  | number _ => none
  | string _ => some '"'
  | array _ => some '['
  | object _ => some '{'

/-- A spelling of the value may begin with the character. -/
def BeginsWith (value : Value) (c : Char) : Prop :=
  match value.opening? with
  | some opening => c = opening
  | none => c = '-' ∨ isDigit c = true

variable {value : Value} {c d : Char}

/-- A value does not begin like one of another kind. -/
theorem BeginsWith.ne (begins : value.BeginsWith c) (other : value.opening? ≠ some d)
    (no_number : d ≠ '-' ∧ isDigit d = false) : c ≠ d := by
  rintro rfl
  unfold BeginsWith at begins
  split at begins
  · next opening opens => exact other (begins ▸ opens)
  · rcases begins with sign | digit
    · exact no_number.1 sign
    · rw [digit] at no_number
      cases no_number.2

/-- A value with an opening of its own does not begin like a number. -/
theorem BeginsWith.not_number (begins : value.BeginsWith c) (opens : value.opening? ≠ none) :
    ¬ (c = '-' ∨ isDigit c = true) := by
  have no_number : ∀ value : Value, ∀ d, value.opening? = some d → d ≠ '-' ∧ isDigit d = false := by
    intro value d opens
    cases value with
    | number => cases opens
    | boolean b => cases b <;> cases opens <;> decide
    | null | string | array | object => cases opens; decide
  unfold BeginsWith at begins
  split at begins
  · next opening found =>
    have := no_number value opening found
    rw [begins]
    simp [this]
  · next missing => exact absurd missing opens

end Value

/-- A spelled value has a first character, and begins with it. -/
theorem beginsWith_of_spells {value : Value} {text : List Char} (spells : Spells value text) :
    ∃ c more, text = c :: more ∧ value.BeginsWith c := by
  cases spells with
  | number literal => exact head_literal literal
  | null | truth | falsity => exact ⟨_, _, rfl, rfl⟩
  | string | emptyArray | array | emptyObject | object => exact ⟨_, _, rfl, rfl⟩

/-! ### Refusals -/

/-- What is refused for its kind is not read. -/
theorem toOption_failKind (expected : String) (cs : List Char) :
    (failKind expected cs : Except Failure α).toOption = none := by
  unfold failKind
  split
  · rfl
  · repeat' split
    all_goals rfl

/-- What is read is a success. -/
theorem eq_ok_of_toOption {ε : Type} {read : Except ε α} {a : α} (some_a : read.toOption = some a) :
    read = .ok a := by
  cases read with
  | error failure => cases some_a
  | ok b => exact congrArg Except.ok (Option.some.inj some_a)

/-- What is not read is a failure. -/
theorem eq_error_of_toOption {read : Except Failure α} (no_a : read.toOption = none) :
    ∃ failure, read = .error failure := by
  cases read with
  | error failure => exact ⟨failure, rfl⟩
  | ok a => cases no_a

/-! ### Single values -/

/-- Truths are read as what they mean. -/
theorem understands_readBool (value : Value) : Understands readBool value value.truth? := by
  intro text spells before rest _
  unfold readBool
  rw [skipBlanks_spelled spells]
  cases value with
  | boolean b =>
    cases spells with
    | truth =>
      have word : readWord ['r', 'u', 'e'] ('r' :: 'u' :: 'e' :: rest) = .ok rest :=
        readWord_append ['r', 'u', 'e'] rest
      simp [word, Value.truth?, Except.toOption]
    | falsity =>
      have word : readWord ['a', 'l', 's', 'e'] ('a' :: 'l' :: 's' :: 'e' :: rest) = .ok rest :=
        readWord_append ['a', 'l', 's', 'e'] rest
      simp [word, Value.truth?, Except.toOption]
  | null | number | string | array | object =>
    obtain ⟨c, more, rfl, begins⟩ := beginsWith_of_spells spells
    have no_t : c ≠ 't' := begins.ne (by simp [Value.opening?]) (by decide)
    have no_f : c ≠ 'f' := begins.ne (by simp [Value.opening?]) (by decide)
    simp only [List.cons_append, if_neg no_t, if_neg no_f, toOption_failKind]
    rfl

/-- Natural numbers are read as what they mean, up to the width asked for. -/
theorem understands_readNatural {width : Width} (narrow : 1 <<< width.bits ≤ greatestNatural + 1)
    (value : Value) : Understands (readNatural width) value (value.natural? width.bits) := by
  intro text spells before rest delimits
  obtain ⟨c, more, head, begins⟩ := beginsWith_of_spells spells
  unfold readNatural
  rw [skipBlanks_spelled spells, head, List.cons_append]
  cases value with
  | number literal =>
    cases spells
    have chars : literal.chars ++ rest = c :: (more ++ rest) := by rw [head, List.cons_append]
    have starts : c = '-' ∨ isDigit c = true := begins
    simp only [if_pos starts, ← chars, Value.natural?]
    -- A number of at most 64 bits is read exactly and may still be too great for the width; no
    -- other literal is read as a natural number at all.
    by_cases fits : ∃ n, literal.natural? = some n ∧ n ≤ greatestNatural
    · obtain ⟨n, natural, small⟩ := fits
      rw [readNumber_of_natural literal delimits natural small, natural, Option.filter_some]
      by_cases fits : n < 1 <<< width.bits
      · simp [fits, Except.toOption]
      · simp [fits, failHere, Except.toOption]
    · have wide : ∀ n, literal.natural? = some n → greatestNatural < n :=
        fun n natural => Nat.lt_of_not_le fun small => fits ⟨n, natural, small⟩
      have meaningless : literal.natural?.filter (· < 1 <<< width.bits) = none := by
        rw [Option.filter_eq_none_iff]
        intro n natural
        have := wide n natural
        simp only [decide_eq_true_eq]
        omega
      have unnatural := unnatural_readNumber literal delimits wide
      rw [meaningless]
      generalize readNumber (literal.chars ++ rest) = step at unnatural
      rcases step with failure | ⟨n | n | x, left⟩
      · rfl
      · exact absurd rfl (unnatural n left)
      · rfl
      · rfl
  | null | boolean | string | array | object =>
    simp only [if_neg (begins.not_number nofun), toOption_failKind]
    rfl

/-- Texts are read as what they mean. -/
theorem understands_readText (value : Value) : Understands readText value value.text? := by
  intro text spells before rest _
  unfold readText
  rw [skipBlanks_spelled spells]
  cases value with
  | string =>
    cases spells with
    | string pieces => exact readString_closed pieces rest
  | null | boolean | number | array | object =>
    obtain ⟨c, more, rfl, begins⟩ := beginsWith_of_spells spells
    have no_quote : c ≠ '"' := begins.ne (by grind [Value.opening?]) (by decide)
    simp only [List.cons_append, if_neg no_quote, toOption_failKind]
    rfl

/-- Null is read as nothing, and any other value as its reader reads it. -/
theorem understands_readOptional {read : Reader α} {meaning : Value → Option α} {value : Value}
    (understood : Understands read value (meaning value)) :
    Understands (readOptional read) value (value.optional? meaning) := by
  intro text spells before rest delimits
  unfold readOptional
  rw [skipBlanks_spelled spells]
  cases value with
  | null =>
    cases spells
    have word : readWord ['u', 'l', 'l'] ('u' :: 'l' :: 'l' :: rest) = .ok rest :=
      readWord_append ['u', 'l', 'l'] rest
    simp [readNull, word, Value.optional?, Except.toOption]
  | boolean | number | string | array | object =>
    have reads : (read (text ++ rest)).toOption = (meaning _).map fun a => (a, rest) :=
      understood text spells .none rest delimits
    obtain ⟨c, more, rfl, begins⟩ := beginsWith_of_spells spells
    have no_n : c ≠ 'n' := begins.ne (by grind [Value.opening?]) (by decide)
    have unlike : (c :: more ++ rest).head? ≠ some 'n' := by simp [no_n]
    simp only [if_neg unlike, Value.optional?]
    generalize meaning _ = meant at reads
    cases meant with
    | none =>
      obtain ⟨failure, failed⟩ := eq_error_of_toOption reads
      rw [failed]
      rfl
    | some a =>
      rw [eq_ok_of_toOption reads]
      rfl

/-! ### Lists -/

/-- Each item takes its comma at least. -/
theorem length_le_behindCommas (chars : β → List Char) (items : List β) :
    items.length ≤ (behindCommas chars items).length := by
  induction items with
  | nil => exact Nat.le_refl 0
  | cons item items ih =>
    simp only [behindCommas, List.flatMap_cons, List.length_append, List.length_cons] at ih ⊢
    omega

/-- The first element is found behind its blanks. -/
theorem nextElement_first {element : Element} (spells : Spells element.value element.text)
    (rest : List Char) :
    nextElement true (element.chars ++ rest) =
      .ok (some (element.text ++ (element.after.chars ++ rest))) := by
  obtain ⟨c, more, text, -, open_bracket, -⟩ := head_of_spells spells
  unfold nextElement
  rw [element.chars_append, skipBlanks_spelled spells, text, List.cons_append]
  simp only [if_neg open_bracket, if_pos]

/-- A later element is found behind a comma. -/
theorem nextElement_later {element : Element} (spells : Spells element.value element.text)
    (after : Blanks) (rest : List Char) :
    nextElement false (after.chars ++ ',' :: (element.chars ++ rest)) =
      .ok (some (element.text ++ (element.after.chars ++ rest))) := by
  obtain ⟨c, more, text, -, open_bracket, -⟩ := head_of_spells spells
  unfold nextElement
  rw [skipBlanks_append, skipBlanks_cons (by decide), element.chars_append]
  simp only [skipBlanks_spelled spells]
  rw [text, List.cons_append]
  simp [open_bracket]

/-- At the closing bracket there is no further element. -/
theorem nextElement_closed (isFirst : Bool) (after : Blanks) (rest : List Char) :
    nextElement isFirst (after.chars ++ ']' :: rest) = .ok none := by
  unfold nextElement
  rw [skipBlanks_append, skipBlanks_cons (by decide)]
  rfl

/-- A list ends at its bracket. -/
theorem endList_closed (after : Blanks) (rest : List Char) :
    endList (after.chars ++ ']' :: rest) = .ok rest := by
  unfold endList
  rw [skipBlanks_append, skipBlanks_cons (by decide)]
  rfl

section

variable {read : Reader α} {fuel : Nat} {isFirst : Bool}

/-- Nothing is read in front of the closing bracket. -/
theorem readElementsWithin_closed (after : Blanks) (rest : List Char) :
    readElementsWithin read (fuel + 1) isFirst (after.chars ++ ']' :: rest) = .ok ([], rest) := by
  unfold readElementsWithin
  simp only [nextElement_closed, endList_closed]

/-- An element is read in front of those that follow. -/
theorem readElementsWithin_next {cs front left : List Char} {meaning : Option α}
    (next : nextElement isFirst cs = .ok (some front))
    (reads : (read front).toOption = meaning.map fun a => (a, left)) :
    (readElementsWithin read (fuel + 1) isFirst cs).toOption =
      meaning.bind fun a => (readElementsWithin read fuel false left).toOption.map fun more =>
        (a :: more.1, more.2) := by
  rw [readElementsWithin]
  simp only [next]
  cases meaning with
  | none =>
    obtain ⟨failure, failed⟩ := eq_error_of_toOption reads
    rw [failed]
    rfl
  | some a =>
    rw [eq_ok_of_toOption reads]
    simp only [Option.bind_some]
    rcases readElementsWithin read fuel false left with failure | ⟨more, rest⟩
    · rfl
    · rfl

variable {meaning : Value → Option α}

/-- The meaning of a list is put together in the order in which it is read. -/
theorem mapM_cons_map (value : Value) (values : List Value) (rest : List Char) :
    ((value :: values).mapM meaning).map (fun elements => (elements, rest)) =
      (meaning value).bind fun a =>
        ((values.mapM meaning).map fun elements => (elements, rest)).map fun more =>
          (a :: more.1, more.2) := by
  rw [List.mapM_cons]
  cases meaning value with
  | none => rfl
  | some a =>
    cases values.mapM meaning with
    | none => rfl
    | some elements => rfl

/-- By induction, the elements behind the first are read as what they mean. -/
theorem readElementsWithin_others (others : List Element)
    (understood : ∀ element ∈ others, Understands read element.value (meaning element.value))
    (spelled : ∀ element ∈ others, Spells element.value element.text)
    (enough : others.length < fuel) (after : Blanks) (rest : List Char) :
    (readElementsWithin read fuel false
        (after.chars ++ (behindCommas Element.chars others ++ ']' :: rest))).toOption =
      ((others.map Element.value).mapM meaning).map fun elements => (elements, rest) := by
  induction others generalizing fuel after with
  | nil =>
    obtain ⟨fuel, rfl⟩ := Nat.exists_eq_add_one_of_ne_zero (Nat.ne_zero_of_lt enough)
    have closed : readElementsWithin read (fuel + 1) false (after.chars ++ ']' :: rest) = _ :=
      readElementsWithin_closed after rest
    exact congrArg Except.toOption closed
  | cons element others ih =>
    obtain ⟨fuel, rfl⟩ := Nat.exists_eq_add_one_of_ne_zero (Nat.ne_zero_of_lt enough)
    have spells := spelled element List.mem_cons_self
    have reads := understood element List.mem_cons_self element.text spells .none
      (element.after.chars ++ (behindCommas Element.chars others ++ ']' :: rest))
      (delimits_blanks _ (delimits_behindCommas _ _ (delimits_bracket rest)))
    have more : behindCommas Element.chars (element :: others) ++ ']' :: rest =
        ',' :: (element.chars ++ (behindCommas Element.chars others ++ ']' :: rest)) := by
      simp [behindCommas]
    have later := ih (fun e member => understood e (List.mem_cons_of_mem _ member))
      (fun e member => spelled e (List.mem_cons_of_mem _ member))
      (Nat.lt_of_succ_lt_succ enough) element.after
    rw [more, readElementsWithin_next (nextElement_later spells after _) reads, later,
      List.map_cons, mapM_cons_map]

end

/-- A list is read as the list of what its elements mean, and refused if one of them means nothing.
-/
theorem understands_readList {read : Reader α} {meaning : Value → Option α}
    (understood : ∀ value, Understands read value (meaning value)) (value : Value) :
    Understands (readList read) value (value.list? meaning) := by
  intro text spells before rest _
  unfold readList
  rw [skipBlanks_spelled spells]
  cases value with
  | array =>
    cases spells with
    | emptyArray inside =>
      simp only [List.cons_append, if_pos, List.append_assoc, List.nil_append]
      rw [readElementsWithin_closed]
      rfl
    | array first others spelled =>
      simp only [List.cons_append, if_pos, List.append_assoc, List.nil_append]
      have spells := spelled first List.mem_cons_self
      have reads := understood first.value first.text spells .none
        (first.after.chars ++ (behindCommas Element.chars others ++ ']' :: rest))
        (delimits_blanks _ (delimits_behindCommas _ _ (delimits_bracket rest)))
      have many := length_le_behindCommas Element.chars others
      have enough : others.length <
          (first.chars ++ (behindCommas Element.chars others ++ ']' :: rest)).length := by
        simp only [List.length_append, List.length_cons]
        omega
      have later := readElementsWithin_others others (fun e _ => understood e.value)
        (fun e member => spelled e (List.mem_cons_of_mem _ member)) enough first.after rest
      rw [readElementsWithin_next (nextElement_first spells _) reads, later, List.map_cons,
        Value.list?, mapM_cons_map]
  | null | boolean | number | string | object =>
    obtain ⟨c, more, rfl, begins⟩ := beginsWith_of_spells spells
    have no_bracket : c ≠ '[' := begins.ne (by grind [Value.opening?]) (by decide)
    simp only [List.cons_append, if_neg no_bracket, toOption_failKind]
    rfl

end BoardDiagnostics.Json
