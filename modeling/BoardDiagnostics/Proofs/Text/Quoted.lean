import BoardDiagnostics.Text.Quoted
import Mathlib.Tactic.SplitIfs

/-!
# Texts that tell where they end

A quoted text can be told from what stands behind it, and so can every character in it: whichever
text is written, the quotation ends at the first quote that no backslash escapes.  A number ends
before the first character that is no digit.
-/

set_option autoImplicit false

namespace BoardDiagnostics.Text

/-- What is written for a value tells the value and its own end, whatever stands behind it. -/
def SelfDelimiting {α : Type} (write : α → List Char) : Prop :=
  ∀ ⦃a b : α⦄ ⦃rest more : List Char⦄, write a ++ rest = write b ++ more → a = b ∧ rest = more

/-- Parts that tell where they end can be followed by more of them, up to a character with which
none of them begins. -/
theorem SelfDelimiting.closed {α : Type} {write : α → List Char} (delimiting : SelfDelimiting write)
    {stop : Char} (opens : ∀ a, ∃ c cs, write a = c :: cs ∧ c ≠ stop) :
    SelfDelimiting fun as : List α => as.flatMap write ++ [stop] := by
  -- A list of parts that is not empty does not begin with the character that closes it.
  have open_ne : ∀ (a : α) (as : List α) (rest more : List Char),
      (a :: as).flatMap write ++ [stop] ++ rest ≠ stop :: more := by
    intro a as rest more same
    obtain ⟨c, cs, begins, other⟩ := opens a
    rw [List.flatMap_cons, begins] at same
    exact other (List.cons.inj same).1
  intro as bs rest more same
  induction as generalizing bs with
  | nil =>
    cases bs with
    | nil => exact ⟨rfl, (List.cons.inj same).2⟩
    | cons b bs => exact absurd same.symm (open_ne b bs more rest)
  | cons a as ih =>
    cases bs with
    | nil => exact absurd same (open_ne a as rest more)
    | cons b bs =>
      simp only [List.flatMap_cons, List.append_assoc] at same ih
      obtain ⟨rfl, later⟩ := delimiting same
      obtain ⟨rfl, behind⟩ := ih later
      exact ⟨rfl, behind⟩

/-- A run of such characters does not go on in this text. -/
def EndsBefore (inRun : Char → Bool) (text : List Char) : Prop :=
  ∀ c ∈ text.head?, inRun c = false

/-- A run of characters ends before the first that is not of their sort. -/
theorem run_append_inj {inRun : Char → Bool} {run other rest more : List Char}
    (all : ∀ c ∈ run, inRun c = true) (each : ∀ c ∈ other, inRun c = true)
    (ends : EndsBefore inRun rest) (stops : EndsBefore inRun more)
    (same : run ++ rest = other ++ more) : run = other ∧ rest = more := by
  have whole : ∀ {run behind : List Char}, (∀ c ∈ run, inRun c = true) →
      EndsBefore inRun behind → (run ++ behind).takeWhile inRun = run := by
    intro run behind all ends
    have none_behind : behind.takeWhile inRun = [] := by
      cases behind with
      | nil => rfl
      | cons c cs => exact List.takeWhile_cons_of_neg (by simp [ends c rfl])
    rw [List.takeWhile_append_of_pos all, none_behind, List.append_nil]
  have runs : run = other := by rw [← whole all ends, same, whole each stops]
  rw [runs] at same
  exact ⟨runs, List.append_cancel_left same⟩

/-- A text ends at the first place of a character that does not occur in it. -/
theorem stop_append_inj {stop : Char} {text other rest more : List Char} (free : stop ∉ text)
    (clear : stop ∉ other) (same : text ++ stop :: rest = other ++ stop :: more) :
    text = other ∧ rest = more := by
  have before : ∀ {text : List Char}, stop ∉ text → ∀ c ∈ text, (c != stop) = true := by
    intro text free c member
    exact bne_iff_ne.mpr (ne_of_mem_of_not_mem member free)
  have at_stop : ∀ behind, EndsBefore (· != stop) (stop :: behind) := by
    rintro behind c ⟨⟩
    exact bne_self_eq_false stop
  obtain ⟨texts, behind⟩ :=
    run_append_inj (before free) (before clear) (at_stop rest) (at_stop more) same
  exact ⟨texts, (List.cons.inj behind).2⟩

/-! ### Numbers -/

/-- Digits up to sixteen are told apart by their characters. -/
theorem digitChar_inj {m n : Nat} (small : m < 16) (little : n < 16)
    (same : m.digitChar = n.digitChar) : m = n := by
  have distinct : ∀ m n : Fin 16, Nat.digitChar m = Nat.digitChar n → m = n := by decide
  exact congrArg Fin.val (distinct ⟨m, small⟩ ⟨n, little⟩ same)

/-- Up to the hexadecimal system, numbers have different digits. -/
theorem toDigits_inj {base : Nat} (several : 1 < base) (known : base ≤ 16) {m n : Nat}
    (same : base.toDigits m = base.toDigits n) : m = n := by
  have one_digit : ∀ k, (base.toDigits k).length ≤ 1 ↔ k < base := by
    intro k
    rw [Nat.length_toDigits_le_iff several Nat.one_pos, Nat.pow_one]
  -- Induction on the number without its last digit.
  induction m using Nat.strongRecOn generalizing n with
  | ind m ih =>
    have alike : m < base ↔ n < base := by rw [← one_digit, ← one_digit, same]
    by_cases small : m < base
    · have little := alike.mp small
      rw [Nat.toDigits_of_lt_base small, Nat.toDigits_of_lt_base little] at same
      exact digitChar_inj (by omega) (by omega) (List.singleton_inj.mp same)
    · have little := mt alike.mpr small
      rw [Nat.toDigits_of_base_le several (Nat.le_of_not_lt small),
        Nat.toDigits_of_base_le several (Nat.le_of_not_lt little)] at same
      obtain ⟨front, last⟩ := List.append_inj' same rfl
      have less : m / base < m := Nat.div_lt_self (by omega) several
      have quotients := ih (m / base) less front
      have remainders : m % base = n % base := by
        have below := Nat.mod_lt m (Nat.zero_lt_of_lt several)
        have under := Nat.mod_lt n (Nat.zero_lt_of_lt several)
        exact digitChar_inj (by omega) (by omega) (List.singleton_inj.mp last)
      rw [← Nat.div_add_mod m base, ← Nat.div_add_mod n base, quotients, remainders]

/-- A number is written with the characters of digits only. -/
theorem exists_digitChar_of_mem_toDigits {base n : Nat} (several : 1 < base) {c : Char}
    (member : c ∈ base.toDigits n) : ∃ digit : Nat, digit.digitChar = c := by
  induction n using Nat.strongRecOn with
  | ind n ih =>
    by_cases small : n < base
    · rw [Nat.toDigits_of_lt_base small] at member
      exact ⟨n, (List.mem_singleton.mp member).symm⟩
    · rw [Nat.toDigits_of_base_le several (Nat.le_of_not_lt small)] at member
      rcases List.mem_append.mp member with front | last
      · exact ih (n / base) (Nat.div_lt_self (by omega) several) front
      · exact ⟨n % base, (List.mem_singleton.mp last).symm⟩

/-- A number ends before the first character that is no digit. -/
theorem decimal_append_inj {m n : Nat} {rest more : List Char}
    (ends : EndsBefore Char.isDigit rest) (stops : EndsBefore Char.isDigit more)
    (same : Nat.toDigits 10 m ++ rest = Nat.toDigits 10 n ++ more) : m = n ∧ rest = more := by
  have digits : ∀ n, ∀ c ∈ Nat.toDigits 10 n, c.isDigit = true := fun _ _ member =>
    Nat.isDigit_of_mem_toDigits (by decide) (by decide) member
  obtain ⟨written, behind⟩ := run_append_inj (digits m) (digits n) ends stops same
  exact ⟨toDigits_inj (by decide) (by decide) written, behind⟩

/-! ### Quotations -/

/-- The characters with a short escape, each with the letter behind its backslash. -/
def shortSpellings : List (Char × Char) :=
  [('"', '"'), ('\\', '\\'), ('n', '\n'), ('r', '\r'), ('t', '\t'), ('0', '\x00')]

/-- The three ways to write a character inside double quotes. -/
inductive Spelled : Char → List Char → Prop where
  | plain {c : Char} (no_quote : c ≠ '"') (no_escape : c ≠ '\\') : Spelled c [c]
  | short {letter c : Char} (known : (letter, c) ∈ shortSpellings) : Spelled c ['\\', letter]
  | number {c : Char} :
      Spelled c ('\\' :: 'u' :: '\x7b' :: (Nat.toDigits 16 c.toNat ++ ['\x7d']))

/-- A character is written in one of the three ways. -/
theorem spelled_spell (c : Char) : Spelled c (spell c) := by
  unfold spell
  split_ifs with quote escape newline carriage tab null hidden
  · exact .short (by simp [shortSpellings, quote])
  · exact .short (by simp [shortSpellings, escape])
  · exact .short (by simp [shortSpellings, newline])
  · exact .short (by simp [shortSpellings, carriage])
  · exact .short (by simp [shortSpellings, tab])
  · exact .short (by simp [shortSpellings, null])
  · exact .number
  · exact .plain quote escape

namespace Spelled

variable {c d : Char} {rest more : List Char}

/-- A character written by its number tells where it ends. -/
theorem number_append_inj
    (same : Nat.toDigits 16 c.toNat ++ '\x7d' :: rest = Nat.toDigits 16 d.toNat ++ '\x7d' :: more) :
    c = d ∧ rest = more := by
  have no_brace : ∀ n, '\x7d' ∉ Nat.toDigits 16 n := by
    intro n member
    obtain ⟨digit, brace⟩ := exists_digitChar_of_mem_toDigits (by decide) member
    exact Nat.digitChar_ne '\x7d' (by decide) brace
  obtain ⟨digits, behind⟩ := stop_append_inj (no_brace _) (no_brace _) same
  exact ⟨Char.toNat_inj.mp (toDigits_inj (by decide) (by decide) digits), behind⟩

/-- A written character tells itself and its end, in whichever way it is written. -/
theorem append_inj {s t : List Char} (spelled : Spelled c s) (other : Spelled d t)
    (same : s ++ rest = t ++ more) : c = d ∧ rest = more := by
  cases spelled with
  | plain no_quote no_escape =>
    cases other with
    | plain => exact List.cons.inj same
    | short | number => exact absurd (List.cons.inj same).1 no_escape
  | @short letter _ known =>
    cases other with
    | plain no_quote no_escape => exact absurd (List.cons.inj same).1.symm no_escape
    | @short other_letter _ other_known =>
      obtain ⟨letters, behind⟩ := List.cons.inj (List.cons.inj same).2
      have determined : ∀ p ∈ shortSpellings, ∀ q ∈ shortSpellings, p.1 = q.1 → p.2 = q.2 := by
        decide
      exact ⟨determined _ known _ other_known letters, behind⟩
    | number =>
      have letters := (List.cons.inj (List.cons.inj same).2).1
      have no_number : ∀ p ∈ shortSpellings, p.1 ≠ 'u' := by decide
      exact absurd letters (no_number _ known)
  | number =>
    cases other with
    | plain no_quote no_escape => exact absurd (List.cons.inj same).1.symm no_escape
    | @short letter _ known =>
      have letters := (List.cons.inj (List.cons.inj same).2).1
      have no_number : ∀ p ∈ shortSpellings, p.1 ≠ 'u' := by decide
      exact absurd letters.symm (no_number _ known)
    | number =>
      simp only [List.cons_append, List.append_assoc, List.cons.injEq, true_and] at same
      exact number_append_inj same

/-- No spelling begins with the quote that ends a quotation. -/
theorem opens {s : List Char} (spelled : Spelled c s) : ∃ d cs, s = d :: cs ∧ d ≠ '"' := by
  cases spelled with
  | plain no_quote _ => exact ⟨c, [], rfl, no_quote⟩
  | short | number => exact ⟨'\\', _, rfl, by decide⟩

end Spelled

/-- The spelling of characters is self-delimiting. -/
theorem selfDelimiting_spell : SelfDelimiting spell :=
  fun _ _ _ _ same => (spelled_spell _).append_inj (spelled_spell _) same

/-- A quotation ends at the first quote that is not escaped, and tells what is quoted. -/
theorem selfDelimiting_quotedChars : SelfDelimiting quotedChars := by
  intro cs ds rest more same
  have closed := selfDelimiting_spell.closed fun c => (spelled_spell c).opens
  exact closed (List.cons.inj same).2

end BoardDiagnostics.Text
