import BoardDiagnostics.Json.Skip
import BoardDiagnostics.Proofs.Json.Numbers
import BoardDiagnostics.Proofs.Json.Strings

/-!
# Values that are passed over

Every spelled value is passed over, however deep it is, as long as there are as many steps as it has
characters.
-/

set_option autoImplicit false

namespace BoardDiagnostics.Json

/-- A word that stands there is read. -/
theorem readWord_append (word rest : List Char) : readWord word (word ++ rest) = .ok rest := by
  induction word with
  | nil => cases rest <;> rfl
  | cons c word ih =>
    rw [List.cons_append, readWord, if_pos rfl, ih]

/-- The colon is found behind its blanks. -/
theorem readColon_gap (gap : Blanks) (rest : List Char) :
    readColon (gap.chars ++ ':' :: rest) = .ok rest := by
  unfold readColon
  rw [skipBlanks_append, skipBlanks_cons (by decide)]
  rfl

/-- The items of an array or an object are delimited by a comma or by the closing bracket. -/
theorem delimits_behindCommas {α : Type} (chars : α → List Char) (items : List α)
    {rest : List Char} (closed : Delimits rest) : Delimits (behindCommas chars items ++ rest) := by
  cases items with
  | nil => exact closed
  | cons item items => exact .inr (.inl rfl)

/-- A closing bracket ends a value. -/
theorem delimits_bracket (rest : List Char) : Delimits (']' :: rest) := .inr (.inr (.inl rfl))

/-- A closing brace ends a value. -/
theorem delimits_brace (rest : List Char) : Delimits ('}' :: rest) := .inr (.inr (.inr rfl))

/-- A digit is no blank. -/
theorem isBlank_of_isDigit {c : Char} (digit : isDigit c = true) : isBlank c = false := by
  cases blank : isBlank c with
  | false => rfl
  | true =>
    have delimits : Delimits [c] := .inl blank
    rw [(not_continues_of_delimits delimits).1] at digit
    cases digit

/-- What the first character of a number tells. -/
theorem head_literal (literal : NumberLiteral) :
    ∃ c more, literal.chars = c :: more ∧ (c = '-' ∨ isDigit c = true) := by
  have all := literal.whole.isDigit
  obtain ⟨isNegative, ⟨chars, nonempty, _⟩, _, _, _⟩ := literal
  cases isNegative with
  | true => exact ⟨_, _, rfl, .inl rfl⟩
  | false =>
    cases chars with
    | nil => exact absurd rfl nonempty
    | cons c digits => exact ⟨_, _, rfl, .inr (all c List.mem_cons_self)⟩

/-- A value begins with a character that is neither blank nor closes anything. -/
theorem head_of_spells {value : Value} {text : List Char} (spells : Spells value text) :
    ∃ c more, text = c :: more ∧ isBlank c = false ∧ c ≠ ']' ∧ c ≠ '}' := by
  cases spells with
  | number literal =>
    obtain ⟨c, more, chars, sign | digit⟩ := head_literal literal
    · subst sign
      exact ⟨_, _, chars, by decide⟩
    · refine ⟨_, _, chars, isBlank_of_isDigit digit, ?_, ?_⟩
      · rintro rfl
        exact absurd digit (by decide)
      · rintro rfl
        exact absurd digit (by decide)
  | null | truth | falsity => exact ⟨_, _, rfl, by decide⟩
  | string | emptyArray | array | emptyObject | object => exact ⟨_, _, rfl, by decide⟩

/-- Blanks in front of a value are passed over first. -/
theorem skipBlanks_spelled {value : Value} {text : List Char} (spells : Spells value text)
    (before : Blanks) (rest : List Char) :
    skipBlanks (before.chars ++ (text ++ rest)) = text ++ rest := by
  obtain ⟨c, more, rfl, dark, -⟩ := head_of_spells spells
  rw [skipBlanks_append, List.cons_append, skipBlanks_cons dark]

/-- The text is passed over as a value. -/
def Skipped (text : List Char) : Prop :=
  ∀ (fuel : Nat) (before : Blanks) (rest : List Char), text.length ≤ fuel → Delimits rest →
    skipValueWithin fuel (before.chars ++ (text ++ rest)) = .ok rest

/-- Blanks in front of a value make no difference, so it is enough to pass over the value. -/
theorem skipped_of_step {value : Value} {text : List Char} (spells : Spells value text)
    (step : ∀ (fuel : Nat) (rest : List Char), text.length ≤ fuel + 1 → Delimits rest →
      skipValueWithin (fuel + 1) (text ++ rest) = .ok rest) : Skipped text := by
  intro fuel before rest enough delimits
  -- No spelling is empty, so there is fuel for one step.
  cases fuel with
  | zero =>
    obtain ⟨c, more, rfl, -⟩ := head_of_spells spells
    exact absurd enough (by simp)
  | succ fuel =>
    have blanks : skipValueWithin (fuel + 1) (before.chars ++ (text ++ rest)) =
        skipValueWithin (fuel + 1) (text ++ rest) := by
      have start := skipBlanks_spelled spells Blanks.none rest
      rw [skipValueWithin, skipValueWithin, skipBlanks_spelled spells before rest]
      rw [show skipBlanks (text ++ rest) = text ++ rest from start]
    rw [blanks]
    exact step fuel rest enough delimits

/-! ### Elements -/

section

variable {fuel : Nat} {element : Element} (skipped : Skipped element.text)
  (short : element.text.length ≤ fuel) (rest : List Char)

include skipped short

/-- A skipped element in front of the bracket is the last one. -/
theorem skipElementsWithin_last :
    skipElementsWithin (fuel + 1) (element.chars ++ ']' :: rest) = .ok rest := by
  have value := skipped fuel element.before (element.after.chars ++ ']' :: rest) short
    (delimits_blanks _ (delimits_bracket rest))
  rw [element.chars_append, skipElementsWithin]
  simp only [value, skipBlanks_append, skipBlanks_cons (by decide : isBlank ']' = false)]
  rfl

/-- Behind a comma, skipping goes on with the next element. -/
theorem skipElementsWithin_more :
    skipElementsWithin (fuel + 1) (element.chars ++ ',' :: rest) =
      skipElementsWithin fuel rest := by
  have value := skipped fuel element.before (element.after.chars ++ ',' :: rest) short
    (delimits_blanks _ (.inr (.inl rfl)))
  rw [element.chars_append, skipElementsWithin]
  simp only [value, skipBlanks_append, skipBlanks_cons (by decide : isBlank ',' = false)]
  rfl

end

/-- By induction, skipping passes over all elements of a list and its bracket. -/
theorem skipElementsWithin_chars (first : Element) (others : List Element)
    (skipped : ∀ element ∈ first :: others, Skipped element.text) {fuel : Nat}
    (enough : (first.chars ++ behindCommas Element.chars others).length < fuel)
    (rest : List Char) :
    skipElementsWithin fuel (first.chars ++ (behindCommas Element.chars others ++ ']' :: rest)) =
      .ok rest := by
  induction others generalizing first fuel with
  | nil =>
    obtain ⟨fuel, rfl⟩ := Nat.exists_eq_add_one_of_ne_zero (Nat.ne_zero_of_lt enough)
    simp only [Element.chars, List.length_append] at enough
    exact skipElementsWithin_last (skipped first List.mem_cons_self) (by omega) rest
  | cons second others ih =>
    obtain ⟨fuel, rfl⟩ := Nat.exists_eq_add_one_of_ne_zero (Nat.ne_zero_of_lt enough)
    have more : behindCommas Element.chars (second :: others) ++ ']' :: rest =
        ',' :: (second.chars ++ (behindCommas Element.chars others ++ ']' :: rest)) := by
      simp [behindCommas]
    simp only [Element.chars, behindCommas, List.flatMap_cons, List.length_append,
      List.length_cons] at enough
    have value := skipped first List.mem_cons_self
    rw [more, skipElementsWithin_more value (by omega)]
    refine ih second (fun element member => skipped element (List.mem_cons_of_mem _ member)) ?_
    simp only [Element.chars, behindCommas, List.length_append]
    omega

/-! ### Members -/

section

variable {fuel : Nat} {member : Member} (skipped : Skipped member.element.text)
  (short : member.element.text.length ≤ fuel) (rest : List Char)

include skipped short

/-- A skipped member in front of the brace is the last one. -/
theorem skipMembersWithin_last :
    skipMembersWithin (fuel + 1) (member.chars ++ '}' :: rest) = .ok rest := by
  have value := skipped fuel member.element.before (member.element.after.chars ++ '}' :: rest) short
    (delimits_blanks _ (delimits_brace rest))
  rw [member.chars_append, member.element.chars_append, skipMembersWithin]
  simp only [skipBlanks_append, skipBlanks_cons (by decide : isBlank '"' = false), if_pos,
    skipString_closed, readColon_gap, value, skipBlanks_cons (by decide : isBlank '}' = false)]
  rfl

/-- Behind a comma, skipping goes on with the next member. -/
theorem skipMembersWithin_more :
    skipMembersWithin (fuel + 1) (member.chars ++ ',' :: rest) = skipMembersWithin fuel rest := by
  have value := skipped fuel member.element.before (member.element.after.chars ++ ',' :: rest) short
    (delimits_blanks _ (.inr (.inl rfl)))
  rw [member.chars_append, member.element.chars_append, skipMembersWithin]
  simp only [skipBlanks_append, skipBlanks_cons (by decide : isBlank '"' = false), if_pos,
    skipString_closed, readColon_gap, value, skipBlanks_cons (by decide : isBlank ',' = false)]

end

/-- By induction, skipping passes over all members of an object and its brace. -/
theorem skipMembersWithin_chars (first : Member) (others : List Member)
    (skipped : ∀ member ∈ first :: others, Skipped member.element.text) {fuel : Nat}
    (enough : (first.chars ++ behindCommas Member.chars others).length < fuel)
    (rest : List Char) :
    skipMembersWithin fuel (first.chars ++ (behindCommas Member.chars others ++ '}' :: rest)) =
      .ok rest := by
  induction others generalizing first fuel with
  | nil =>
    obtain ⟨fuel, rfl⟩ := Nat.exists_eq_add_one_of_ne_zero (Nat.ne_zero_of_lt enough)
    simp only [Member.chars, Element.chars, List.length_append, List.length_cons] at enough
    exact skipMembersWithin_last (skipped first List.mem_cons_self) (by omega) rest
  | cons second others ih =>
    obtain ⟨fuel, rfl⟩ := Nat.exists_eq_add_one_of_ne_zero (Nat.ne_zero_of_lt enough)
    have more : behindCommas Member.chars (second :: others) ++ '}' :: rest =
        ',' :: (second.chars ++ (behindCommas Member.chars others ++ '}' :: rest)) := by
      simp [behindCommas]
    simp only [Member.chars, Element.chars, behindCommas, List.flatMap_cons, List.length_append,
      List.length_cons] at enough
    have value := skipped first List.mem_cons_self
    rw [more, skipMembersWithin_more value (by omega)]
    refine ih second (fun member inside => skipped member (List.mem_cons_of_mem _ inside)) ?_
    simp only [Member.chars, Element.chars, behindCommas, List.length_append, List.length_cons]
    omega

/-! ### Values -/

/-- A digit differs from every character that is none. -/
theorem ne_of_isDigit {c d : Char} (digit : isDigit c = true) (other : isDigit d = false) :
    c ≠ d := by
  rintro rfl
  rw [digit] at other
  cases other

/-- Skipping passes over a number, with or without a minus. -/
theorem skipValueWithin_number (literal : NumberLiteral) (fuel : Nat) {rest : List Char}
    (delimits : Delimits rest) :
    skipValueWithin (fuel + 1) (literal.chars ++ rest) = .ok rest := by
  have whole := skipUnsigned_whole literal delimits
  unfold NumberLiteral.chars
  cases literal.isNegative with
  | true =>
    show skipValueWithin (fuel + 1) ('-' :: (literal.whole.chars ++ literal.tail ++ rest)) = _
    rw [List.append_assoc, skipValueWithin, skipBlanks_cons (by decide)]
    exact whole
  | false =>
    show skipValueWithin (fuel + 1) (literal.whole.chars ++ literal.tail ++ rest) = _
    rw [List.append_assoc]
    have all := literal.whole.isDigit
    obtain ⟨_, ⟨chars, nonempty, _⟩, _, _, _⟩ := literal
    cases chars with
    | nil => exact absurd rfl nonempty
    | cons c digits =>
      have digit : isDigit c = true := all c List.mem_cons_self
      rw [List.cons_append, skipValueWithin, skipBlanks_cons (isBlank_of_isDigit digit)]
      simp only [if_neg (ne_of_isDigit digit (by decide : isDigit 'n' = false)),
        if_neg (ne_of_isDigit digit (by decide : isDigit 't' = false)),
        if_neg (ne_of_isDigit digit (by decide : isDigit 'f' = false)),
        if_neg (ne_of_isDigit digit (by decide : isDigit '-' = false)), if_pos digit]
      exact whole

/-- Behind an opening bracket the first element is looked for past its blanks. -/
theorem skipValueWithin_array {first : Element} (spells : Spells first.value first.text)
    (fuel : Nat) (rest : List Char) :
    skipValueWithin (fuel + 1) ('[' :: (first.chars ++ rest)) =
      skipElementsWithin fuel ({ first with before := .none : Element }.chars ++ rest) := by
  have trimmed : { first with before := .none : Element }.chars ++ rest =
      first.text ++ (first.after.chars ++ rest) := Element.chars_append _ _
  have inside : skipBlanks (first.chars ++ rest) = first.text ++ (first.after.chars ++ rest) := by
    rw [first.chars_append, skipBlanks_spelled spells]
  obtain ⟨c, more, text, -, open_bracket, -⟩ := head_of_spells spells
  rw [text, List.cons_append] at inside
  rw [trimmed, text, List.cons_append, skipValueWithin, skipBlanks_cons (by decide)]
  simp [inside, open_bracket, (by decide : isDigit '[' = false)]

/-- An object that opens with a member is skipped member by member. -/
theorem skipValueWithin_object (first : Member) (fuel : Nat) (rest : List Char) :
    skipValueWithin (fuel + 1) ('{' :: (first.chars ++ rest)) =
      skipMembersWithin fuel ({ first with before := .none : Member }.chars ++ rest) := by
  have trimmed := Member.chars_append { first with before := .none } rest
  have inside : skipBlanks (first.chars ++ rest) =
      { first with before := .none : Member }.chars ++ rest := by
    rw [first.chars_append, skipBlanks_append, skipBlanks_cons (by decide), trimmed]
    rfl
  rw [trimmed] at inside ⊢
  rw [skipValueWithin, skipBlanks_cons (by decide)]
  simp [inside, Blanks.none, (by decide : isDigit '{' = false)]

/-- Induction on the spelling: the values of elements and members have been passed over. -/
theorem skipped_of_spells {value : Value} {text : List Char} (spells : Spells value text) :
    Skipped text := by
  induction spells with
  | null =>
    refine skipped_of_step .null fun fuel rest _ _ => ?_
    exact readWord_append ['u', 'l', 'l'] rest
  | truth =>
    refine skipped_of_step .truth fun fuel rest _ _ => ?_
    exact readWord_append ['r', 'u', 'e'] rest
  | falsity =>
    refine skipped_of_step .falsity fun fuel rest _ _ => ?_
    exact readWord_append ['a', 'l', 's', 'e'] rest
  | number literal =>
    refine skipped_of_step (.number literal) fun fuel rest _ delimits => ?_
    exact skipValueWithin_number literal fuel delimits
  | string pieces =>
    refine skipped_of_step (.string pieces) fun fuel rest _ _ => ?_
    exact skipString_closed pieces rest
  | emptyArray inside =>
    refine skipped_of_step (.emptyArray inside) fun fuel rest _ _ => ?_
    rw [List.cons_append, List.append_assoc, skipValueWithin, skipBlanks_cons (by decide)]
    simp only [skipBlanks_append]
    rfl
  | array first others spelled ih =>
    refine skipped_of_step (.array first others spelled) fun fuel rest enough _ => ?_
    rw [List.cons_append, List.append_assoc, List.append_assoc,
      skipValueWithin_array (spelled first List.mem_cons_self)]
    refine skipElementsWithin_chars _ others ?_ ?_ rest
    · intro element member
      rcases List.mem_cons.mp member with rfl | other
      · exact ih first List.mem_cons_self
      · exact ih element (List.mem_cons_of_mem _ other)
    · simp only [Element.chars, Blanks.none, List.length_append, List.length_cons] at enough ⊢
      omega
  | emptyObject inside =>
    refine skipped_of_step (.emptyObject inside) fun fuel rest _ _ => ?_
    rw [List.cons_append, List.append_assoc, skipValueWithin, skipBlanks_cons (by decide)]
    simp only [skipBlanks_append]
    rfl
  | object first others spelled ih =>
    refine skipped_of_step (.object first others spelled) fun fuel rest enough _ => ?_
    rw [List.cons_append, List.append_assoc, List.append_assoc, skipValueWithin_object]
    refine skipMembersWithin_chars _ others ?_ ?_ rest
    · intro member inside
      rcases List.mem_cons.mp inside with rfl | other
      · exact ih first List.mem_cons_self
      · exact ih member (List.mem_cons_of_mem _ other)
    · simp only [Member.chars, Blanks.none, List.length_append, List.length_cons] at enough ⊢
      omega

end BoardDiagnostics.Json
