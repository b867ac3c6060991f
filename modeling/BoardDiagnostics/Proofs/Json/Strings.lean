import BoardDiagnostics.Proofs.Json.Characters

/-!
# Reading strings

A string that is read comes to the characters that its pieces stand for, and is refused if they
stand for none.  A string that is passed over is passed over in both cases.
-/

set_option autoImplicit false

namespace BoardDiagnostics.Json

/-! ### Escapes -/

/-- Four hexadecimal digits are read as their code unit. -/
theorem readUnit_of_digits (a b c d : HexDigit) (rest : List Char) :
    readUnit (a.char :: b.char :: c.char :: d.char :: rest) = .ok (unitOf a b c d, rest) := by
  have enough : ¬ octetCount ((a.char :: b.char :: c.char :: d.char :: rest).take 4) < 4 := by
    have := a.char.utf8Size_pos
    have := b.char.utf8Size_pos
    have := c.char.utf8Size_pos
    have := d.char.utf8Size_pos
    simp only [List.take_succ_cons, List.take_zero, octetCount]
    omega
  unfold readUnit
  rw [if_neg enough]
  simp only [unitOfDigits?_chars]

/-- No short escape begins like a code unit. -/
theorem ne_u_of_shortEscape {letter meant : Char} (known : (letter, meant) ∈ shortEscapes) :
    letter ≠ 'u' := by
  rintro rfl
  have unknown : shortEscape? 'u' = none := by decide
  rw [shortEscape?_of_mem known] at unknown
  cases unknown

/-- A short escape is read as what it stands for. -/
theorem readEscape_short {letter meant : Char} (known : (letter, meant) ∈ shortEscapes)
    (rest : List Char) : readEscape (letter :: rest) = .ok (meant, rest) := by
  unfold readEscape
  simp only [if_neg (ne_u_of_shortEscape known), shortEscape?_of_mem known]

/-- Skipping passes over a short escape. -/
theorem skipEscape_short {letter meant : Char} (known : (letter, meant) ∈ shortEscapes)
    (rest : List Char) : skipEscape (letter :: rest) = .ok rest := by
  unfold skipEscape
  simp only [if_neg (ne_u_of_shortEscape known), shortEscape?_of_mem known]

section

variable (a b c d : HexDigit) (rest : List Char)

/-- A code unit is a character of its own, or the first half of a pair, or refused as the second
half of none. -/
theorem readEscape_unit :
    readEscape ('u' :: a.char :: b.char :: c.char :: d.char :: rest) =
      if IsLow (unitOf a b c d) then failHere .loneSurrogate rest
      else if IsHigh (unitOf a b c d) then readTrailing (unitOf a b c d) rest
      else .ok (Char.ofNat (unitOf a b c d), rest) := by
  unfold readEscape
  simp only [if_pos, readUnit_of_digits, isTrailing_iff, isLeading_iff]

/-- Skipping passes over a code unit, whatever surrogate it is. -/
theorem skipEscape_unit :
    skipEscape ('u' :: a.char :: b.char :: c.char :: d.char :: rest) = .ok rest := by
  unfold skipEscape
  simp only [if_pos, readUnit_of_digits]

/-- Behind a high surrogate there must be a low one. -/
theorem readTrailing_unit (leading : Nat) :
    readTrailing leading ('\\' :: 'u' :: a.char :: b.char :: c.char :: d.char :: rest) =
      if IsLow (unitOf a b c d) then .ok (ofPair leading (unitOf a b c d), rest)
      else failHere .loneSurrogate rest := by
  unfold readTrailing
  simp only [if_pos, readUnit_of_digits, isTrailing_iff, charOfPair_eq]

end

/-- The second half of a pair must follow at once. -/
theorem readTrailing_other (leading : Nat) {pieces : List Piece}
    (other : ∀ a b c d more, pieces = .unit a b c d :: more → False) (rest : List Char) :
    ∃ failure, readTrailing leading (Piece.closed pieces ++ rest) = .error failure := by
  cases pieces with
  | nil => exact ⟨_, rfl⟩
  | cons piece more =>
    cases piece with
    | plain c no_quote no_escape no_control =>
      have fails : readTrailing leading (c :: (Piece.closed more ++ rest)) =
          failNext .endOfEscape (c :: (Piece.closed more ++ rest)) := by
        unfold readTrailing
        simp only [if_neg no_escape]
      exact ⟨_, fails⟩
    | short letter meant known =>
      have fails : readTrailing leading ('\\' :: letter :: (Piece.closed more ++ rest)) =
          failNext .endOfEscape (letter :: (Piece.closed more ++ rest)) := by
        unfold readTrailing
        simp only [if_pos, if_neg (ne_u_of_shortEscape known)]
      exact ⟨_, fails⟩
    | unit a b c d => exact (other a b c d more rfl).elim

/-! ### Strings that are read -/

/-- A quote ends the text. -/
theorem readChars_quote (rest : List Char) : readChars ('"' :: rest) = .ok ([], rest) := by
  unfold readChars
  simp

/-- A character that stands for itself is read as itself. -/
theorem readChars_plain {c : Char} (no_quote : c ≠ '"') (no_escape : c ≠ '\\')
    (no_control : 0x20 ≤ c.toNat) (rest : List Char) :
    (readChars (c :: rest)).toOption =
      (readChars rest).toOption.map fun read => (c :: read.1, read.2) := by
  have printed : isControl c = false := by simpa [isControl] using no_control
  rw [readChars]
  simp only [if_neg no_quote, if_neg no_escape, printed, Bool.false_eq_true, if_false]
  rcases readChars rest with failure | ⟨more, rest⟩
  · rfl
  · rfl

/-- An escape that is read puts its character in front of the rest. -/
theorem readChars_escape {cs rest : List Char} {meant : Char}
    (escape : readEscape cs = .ok (meant, rest)) :
    (readChars ('\\' :: cs)).toOption =
      (readChars rest).toOption.map fun read => (meant :: read.1, read.2) := by
  rw [readChars]
  simp only [if_neg (by decide : ¬ '\\' = '"'), if_pos]
  split
  · next failed => rw [escape] at failed; cases failed
  · next read =>
    rw [escape] at read
    cases read
    rcases readChars rest with failure | ⟨more, rest⟩
    · rfl
    · rfl

/-- An escape that is refused leaves no text. -/
theorem readChars_escape_error {cs : List Char} {failure : Failure}
    (escape : readEscape cs = .error failure) : (readChars ('\\' :: cs)).toOption = none := by
  rw [readChars]
  simp only [if_neg (by decide : ¬ '\\' = '"'), if_pos]
  split
  · rfl
  · next read => rw [escape] at read; cases read

/-- The recursion is that of `Piece.decode?`: a pair of units is one step. -/
theorem readChars_closed (pieces : List Piece) (rest : List Char) :
    (readChars (Piece.closed pieces ++ rest)).toOption =
      (Piece.decode? pieces).map fun chars => (chars, rest) := by
  induction pieces using Piece.decode?.induct with
  | case1 =>
    show (readChars ('"' :: rest)).toOption = _
    rw [readChars_quote]
    rfl
  | case2 c no_quote no_escape no_control more ih =>
    show (readChars (c :: (Piece.closed more ++ rest))).toOption = _
    rw [readChars_plain no_quote no_escape no_control, ih, Piece.decode?, Option.map_map,
      Option.map_map]
    rfl
  | case3 letter meant known more ih =>
    show (readChars ('\\' :: letter :: (Piece.closed more ++ rest))).toOption = _
    rw [readChars_escape (readEscape_short known _), ih, Piece.decode?, Option.map_map,
      Option.map_map]
    rfl
  | case4 a b c d more low =>
    have refused := readEscape_unit a b c d (Piece.closed more ++ rest)
    rw [if_pos low] at refused
    have undecoded : Piece.decode? (.unit a b c d :: more) = none := by
      unfold Piece.decode?
      exact if_pos low
    rw [undecoded]
    exact readChars_escape_error refused
  | case5 a b c d not_low high a' b' c' d' more low ih =>
    let second := Piece.unit a' b' c' d'
    have pair : readTrailing (unitOf a b c d) (Piece.closed (second :: more) ++ rest) =
        .ok (ofPair (unitOf a b c d) (unitOf a' b' c' d'), Piece.closed more ++ rest) :=
      (readTrailing_unit a' b' c' d' _ _).trans (if_pos low)
    have escape := readEscape_unit a b c d (Piece.closed (second :: more) ++ rest)
    rw [if_neg not_low, if_pos high, pair] at escape
    have decoded : Piece.decode? (.unit a b c d :: second :: more) =
        (Piece.decode? more).map (ofPair (unitOf a b c d) (unitOf a' b' c' d') :: ·) := by
      rw [Piece.decode?, if_neg not_low, if_pos high]
      exact if_pos low
    rw [decoded, Option.map_map]
    refine (readChars_escape escape).trans ?_
    rw [ih, Option.map_map]
    rfl
  | case6 a b c d not_low high a' b' c' d' more no_second =>
    let second := Piece.unit a' b' c' d'
    have lone : readTrailing (unitOf a b c d) (Piece.closed (second :: more) ++ rest) =
        failHere .loneSurrogate (Piece.closed more ++ rest) :=
      (readTrailing_unit a' b' c' d' _ _).trans (if_neg no_second)
    have refused := readEscape_unit a b c d (Piece.closed (second :: more) ++ rest)
    rw [if_neg not_low, if_pos high, lone] at refused
    have undecoded : Piece.decode? (.unit a b c d :: second :: more) = none := by
      rw [Piece.decode?, if_neg not_low, if_pos high]
      exact if_neg no_second
    rw [undecoded]
    exact readChars_escape_error refused
  | case7 a b c d more not_low high other =>
    obtain ⟨failure, lone⟩ := readTrailing_other (unitOf a b c d) other rest
    have refused := readEscape_unit a b c d (Piece.closed more ++ rest)
    rw [if_neg not_low, if_pos high, lone] at refused
    have undecoded : Piece.decode? (.unit a b c d :: more) = none := by
      unfold Piece.decode?
      rw [if_neg not_low, if_pos high]
      split
      · exact (other _ _ _ _ _ rfl).elim
      · rfl
    rw [undecoded]
    exact readChars_escape_error refused
  | case8 a b c d more not_low not_high ih =>
    have escape := readEscape_unit a b c d (Piece.closed more ++ rest)
    rw [if_neg not_low, if_neg not_high] at escape
    have decoded : Piece.decode? (.unit a b c d :: more) =
        (Piece.decode? more).map (Char.ofNat (unitOf a b c d) :: ·) := by
      conv => lhs; unfold Piece.decode?
      rw [if_neg not_low, if_neg not_high]
    rw [decoded, Option.map_map]
    refine (readChars_escape escape).trans ?_
    rw [ih, Option.map_map]
    rfl

/-- A spelled text is read as what its pieces mean, and refused if they mean none. -/
theorem readString_closed (pieces : List Piece) (rest : List Char) :
    (readString (Piece.closed pieces ++ rest)).toOption =
      (Piece.text? pieces).map fun text => (text, rest) := by
  have string : ∀ cs, (readString cs).toOption =
      (readChars cs).toOption.map fun read => (String.ofList read.1, read.2) := by
    intro cs
    unfold readString
    rcases readChars cs with failure | ⟨chars, left⟩
    · rfl
    · rfl
  rw [string, readChars_closed, Piece.text?, Option.map_map, Option.map_map]
  rfl

/-! ### Strings that are passed over -/

/-- Skipping goes on behind an escape. -/
theorem skipString_escape {cs rest : List Char} (escape : skipEscape cs = .ok rest) :
    skipString ('\\' :: cs) = skipString rest := by
  rw [skipString]
  simp only [if_neg (by decide : ¬ '\\' = '"'), if_pos]
  split
  · next failed => rw [escape] at failed; cases failed
  · next read =>
    rw [escape] at read
    cases read
    rfl

/-- Skipping passes over a spelled text, whether or not its pieces mean one. -/
theorem skipString_closed (pieces : List Piece) (rest : List Char) :
    skipString (Piece.closed pieces ++ rest) = .ok rest := by
  induction pieces with
  | nil =>
    show skipString ('"' :: rest) = _
    rw [skipString, if_pos rfl]
  | cons piece more ih =>
    cases piece with
    | plain c no_quote no_escape no_control =>
      have printed : isControl c = false := by simpa [isControl] using no_control
      show skipString (c :: (Piece.closed more ++ rest)) = _
      rw [skipString]
      simp only [if_neg no_quote, if_neg no_escape, printed, Bool.false_eq_true, if_false, ih]
    | short letter meant known =>
      show skipString ('\\' :: letter :: (Piece.closed more ++ rest)) = _
      rw [skipString_escape (skipEscape_short known _), ih]
    | unit a b c d =>
      have escape := skipEscape_unit a b c d (Piece.closed more ++ rest)
      exact (skipString_escape escape).trans ih

end BoardDiagnostics.Json
