import BoardDiagnostics.Random.Uniform
import Mathlib.Algebra.Order.Floor.Div
import Mathlib.Data.FinEnum
import Mathlib.Data.Set.Card.Arithmetic
import Mathlib.Order.Interval.Set.Nat

/-!
# The words that give a number

A word gives the number `value` out of `n` exactly if its product with `n` lies among the first `n *
2 ^ leadingZeros n` products from `(value - 1) * wordCount` on.  As the products of neighbouring
words are `n` apart, these are `2 ^ leadingZeros n` words in a row (`ofWord?_eq_some_iff`), and each
number has as many of them (`ncard_words`).  Together they are at least half of all words
(`accepted_bounds`, `ncard_accepted`).  A draw takes words up to the first that is accepted and no
further (`exists_stop`).
-/

set_option autoImplicit false

namespace BoardDiagnostics.Uniform

/-! ### Leading zeros -/

/-- The leading zeros of a word are those of its bits. -/
theorem leadingZeros_eq_clz (n : UInt64) : leadingZeros n.toNat = n.toBitVec.clz.toNat := by
  unfold leadingZeros
  split
  · next zero =>
    have zero : n = 0 := UInt64.toNat_inj.mp zero
    subst zero
    decide
  · next positive =>
    have nonzero : n.toBitVec ≠ 0#64 := by
      intro zero
      exact positive (congrArg BitVec.toNat zero)
    have above : 2 ^ (64 - 1 - n.toBitVec.clz.toNat) ≤ n.toNat :=
      BitVec.two_pow_sub_clz_le_toNat_of_ne_zero (by decide) nonzero
    have below : n.toNat < 2 ^ (64 - n.toBitVec.clz.toNat) := BitVec.toNat_lt_two_pow_sub_clz
    have few : n.toBitVec.clz.toNat < 64 := by
      by_contra many
      have none_left : 64 - n.toBitVec.clz.toNat = 0 := by omega
      rw [none_left, pow_zero] at below
      omega
    have top : Nat.log2 n.toNat = 63 - n.toBitVec.clz.toNat := by
      rw [Nat.log2_eq_iff positive]
      refine ⟨above, ?_⟩
      have next : 63 - n.toBitVec.clz.toNat + 1 = 64 - n.toBitVec.clz.toNat := by omega
      rwa [next]
    omega

variable {n : Nat} (positive : 0 < n) (fits : n < wordCount)

include positive fits

/-- The accepted products take up at least half of the room between two multiples of `wordCount`,
and not all of it. -/
theorem accepted_bounds :
    wordCount ≤ 2 * (n * 2 ^ leadingZeros n) ∧ n * 2 ^ leadingZeros n < wordCount := by
  have top : Nat.log2 n ≤ 63 := Nat.le_of_lt_succ ((Nat.log2_lt positive.ne').mpr fits)
  have zeros : leadingZeros n = 63 - Nat.log2 n := if_neg positive.ne'
  have lower := Nat.log2_self_le positive.ne'
  have upper := Nat.lt_log2_self (n := n)
  have whole : wordCount = 2 ^ (Nat.log2 n + 1) * 2 ^ leadingZeros n := by
    rw [← pow_add, zeros]
    have : Nat.log2 n + 1 + (63 - Nat.log2 n) = 64 := by omega
    rw [this]
    rfl
  constructor
  · calc
      wordCount = 2 * (2 ^ Nat.log2 n * 2 ^ leadingZeros n) := by rw [whole, pow_succ]; ring
      _ ≤ 2 * (n * 2 ^ leadingZeros n) :=
        Nat.mul_le_mul_left 2 (Nat.mul_le_mul_right _ lower)
  · calc
      n * 2 ^ leadingZeros n < 2 ^ (Nat.log2 n + 1) * 2 ^ leadingZeros n :=
        Nat.mul_lt_mul_of_pos_right upper (Nat.two_pow_pos _)
      _ = wordCount := whole.symm

/-! ### The words of a number -/

omit fits in
/-- A low half is within the limit exactly if it is below the shifted range. -/
theorem le_limit_iff {low : Nat} : low ≤ limit n ↔ low < n * 2 ^ leadingZeros n := by
  have some_accepted : 0 < n * 2 ^ leadingZeros n :=
    Nat.mul_pos positive (Nat.two_pow_pos _)
  unfold limit
  rw [Nat.shiftLeft_eq]
  omega

/-- In terms of products: those of the words of a number lie in a row. -/
theorem ofWord?_eq_some_iff_product {word : UInt64} {value : Nat} :
    ofWord? n word = some value ↔ 1 ≤ value ∧ (value - 1) * wordCount ≤ n * word.toNat ∧
      n * word.toNat < (value - 1) * wordCount + n * 2 ^ leadingZeros n := by
  have few := (accepted_bounds positive fits).2
  have halves := Nat.div_add_mod' (n * word.toNat) wordCount
  unfold ofWord?
  rw [Nat.mul_comm word.toNat n]
  simp only [le_limit_iff positive]
  constructor
  · intro gives
    split at gives
    · next accepted =>
      obtain rfl := Option.some.inj gives
      rw [Nat.add_sub_cancel]
      generalize n * word.toNat / wordCount = high at halves ⊢
      omega
    · cases gives
  · rintro ⟨first, above, below⟩
    have high : n * word.toNat / wordCount = value - 1 := by
      apply Nat.div_eq_of_lt_le above
      rw [Nat.succ_mul]
      omega
    rw [high] at halves
    rw [if_pos (by omega), high, Nat.sub_add_cancel first]

/-- The first word of a number. -/
def firstWord (n value : Nat) : Nat := (value - 1) * wordCount ⌈/⌉ n

omit fits in
/-- The words of neighbouring products are neighbours. -/
theorem firstWord_add_le_iff {value count word : Nat} :
    firstWord n value + count ≤ word ↔ (value - 1) * wordCount + n * count ≤ n * word := by
  have start : firstWord n value ≤ word - count ↔
      (value - 1) * wordCount ≤ n * (word - count) := ceilDiv_le_iff_le_mul positive
  rw [Nat.mul_sub] at start
  rcases Nat.lt_or_ge word count with before | behind
  · have product : n * word < n * count := Nat.mul_lt_mul_of_pos_left before positive
    omega
  · have product : n * count ≤ n * word := Nat.mul_le_mul_left n behind
    omega

/-- A value is given by so many words in a row, from its first word on. -/
theorem ofWord?_eq_some_iff {word : UInt64} {value : Nat} :
    ofWord? n word = some value ↔ 1 ≤ value ∧ firstWord n value ≤ word.toNat ∧
      word.toNat < firstWord n value + 2 ^ leadingZeros n := by
  have start : firstWord n value ≤ word.toNat ↔ (value - 1) * wordCount ≤ n * word.toNat :=
    ceilDiv_le_iff_le_mul positive
  rw [ofWord?_eq_some_iff_product positive fits, start, ← Nat.not_le, ← Nat.not_le,
    firstWord_add_le_iff positive]

/-- The first of three numbers has a quarter of all words. -/
example : ofWord? 3 0x3fffffffffffffff = some 1 ∧ ofWord? 3 0x4000000000000000 = none := by decide

/-- A word gives values of the range only. -/
theorem range_of_ofWord? {word : UInt64} {value : Nat} (gives : ofWord? n word = some value) :
    1 ≤ value ∧ value ≤ n := by
  obtain ⟨first, above, -⟩ := (ofWord?_eq_some_iff_product positive fits).mp gives
  refine ⟨first, ?_⟩
  have below : (value - 1) * wordCount < n * wordCount :=
    Nat.lt_of_le_of_lt above (Nat.mul_lt_mul_of_pos_left word.toNat_lt positive)
  have := Nat.lt_of_mul_lt_mul_right below
  omega

/-- All words of a number are words of 64 bits. -/
theorem firstWord_add_le {value : Nat} (first : 1 ≤ value) (last : value ≤ n) :
    firstWord n value + 2 ^ leadingZeros n ≤ wordCount := by
  rw [firstWord_add_le_iff positive]
  calc
    (value - 1) * wordCount + n * 2 ^ leadingZeros n ≤ (value - 1) * wordCount + wordCount :=
      Nat.add_le_add_left (accepted_bounds positive fits).2.le _
    _ = value * wordCount := by rw [← Nat.succ_mul, Nat.succ_eq_add_one, Nat.sub_add_cancel first]
    _ ≤ n * wordCount := Nat.mul_le_mul_right _ last

/-- Every number has the same count of words. -/
theorem ncard_words {value : Nat} (first : 1 ≤ value) (last : value ≤ n) :
    {word | ofWord? n word = some value}.ncard = 2 ^ leadingZeros n := by
  have numbers : UInt64.toNat '' {word | ofWord? n word = some value} =
      Set.Ico (firstWord n value) (firstWord n value + 2 ^ leadingZeros n) := by
    ext number
    constructor
    · rintro ⟨word, gives, rfl⟩
      exact ((ofWord?_eq_some_iff positive fits).mp gives).2
    · intro within
      have small : number < wordCount :=
        Nat.lt_of_lt_of_le within.2 (firstWord_add_le positive fits first last)
      have back : (UInt64.ofNat number).toNat = number := UInt64.toNat_ofNat_of_lt' small
      refine ⟨UInt64.ofNat number, (ofWord?_eq_some_iff positive fits).mpr ⟨first, ?_⟩, back⟩
      rwa [back]
  calc
    {word | ofWord? n word = some value}.ncard
      = (UInt64.toNat '' {word | ofWord? n word = some value}).ncard :=
        (Set.ncard_image_of_injective _ fun _ _ => UInt64.toNat_inj.mp).symm
    _ = 2 ^ leadingZeros n := by rw [numbers, Set.ncard_Ico_nat, Nat.add_sub_cancel_left]

/-- Every value of the range is given by a word. -/
theorem exists_word {value : Nat} (first : 1 ≤ value) (last : value ≤ n) :
    ∃ word, ofWord? n word = some value := by
  have many : {word | ofWord? n word = some value}.ncard ≠ 0 := by
    rw [ncard_words positive fits first last]
    exact (Nat.two_pow_pos _).ne'
  exact Set.nonempty_of_ncard_ne_zero many

/-- So many words give a value: as many for each value of the range. -/
theorem ncard_accepted :
    {word | ∃ value, ofWord? n word = some value}.ncard = n * 2 ^ leadingZeros n := by
  have union : {word | ∃ value, ofWord? n word = some value} =
      ⋃ index : Fin n, {word | ofWord? n word = some (index.val + 1)} := by
    ext word
    rw [Set.mem_iUnion]
    constructor
    · rintro ⟨value, gives⟩
      obtain ⟨first, last⟩ := range_of_ofWord? positive fits gives
      refine ⟨⟨value - 1, by omega⟩, ?_⟩
      show ofWord? n word = some (value - 1 + 1)
      rw [gives, Nat.sub_add_cancel first]
    · rintro ⟨index, gives⟩
      exact ⟨_, gives⟩
  have apart : Pairwise (Function.onFun Disjoint
      fun index : Fin n => {word | ofWord? n word = some (index.val + 1)}) := by
    intro index other different
    refine Set.disjoint_left.mpr fun word gives gives' => different ?_
    have same := Option.some.inj (gives.symm.trans gives')
    exact Fin.ext (Nat.succ.inj same)
  have each : ∀ index : Fin n,
      {word | ofWord? n word = some (index.val + 1)}.ncard = 2 ^ leadingZeros n :=
    fun index => ncard_words positive fits (by omega) (by omega)
  rw [union, Set.ncard_iUnion_of_finite (fun _ => Set.toFinite _) apart,
    finsum_eq_sum_of_fintype]
  simp only [each, Finset.sum_const, Finset.card_univ, Fintype.card_fin, smul_eq_mul]

omit positive fits

/-! ### Drawing -/

/-- The word zero gives the least value. -/
@[simp] theorem ofWord?_zero : ofWord? n 0 = some 1 := by
  have product : (0 : UInt64).toNat * n = 0 := Nat.zero_mul n
  unfold ofWord?
  rw [product]
  exact if_pos (Nat.zero_le _)

variable {supply : Supply} {i : Nat}

/-- Behind the given words there are zeros, which are accepted. -/
theorem ofWord?_get_of_le (behind : supply.length ≤ i) : ofWord? n (supply.get i) = some 1 := by
  rw [Supply.get, if_neg (by omega), ofWord?_zero]

/-- An accepted word is the last one that is taken. -/
theorem draw_of_accepted {value : Nat} (accepted : ofWord? n (supply.get i) = some value) :
    draw n supply i = (value, i + 1) := by
  unfold draw
  rcases Nat.lt_or_ge i supply.length with given | behind
  · obtain ⟨fuel, count⟩ : ∃ fuel, supply.length - i = fuel + 1 := ⟨supply.length - i - 1, by omega⟩
    rw [count, drawWithin, accepted]
  · obtain rfl : 1 = value := Option.some.inj ((ofWord?_get_of_le behind).symm.trans accepted)
    rw [Nat.sub_eq_zero_of_le behind, drawWithin]

/-- A rejected word is passed over. -/
theorem draw_of_rejected (rejected : ofWord? n (supply.get i) = none) :
    draw n supply i = draw n supply (i + 1) := by
  unfold draw
  rcases Nat.lt_or_ge i supply.length with given | behind
  · have count : supply.length - i = supply.length - (i + 1) + 1 := by omega
    rw [count, drawWithin, rejected]
  · rw [ofWord?_get_of_le behind] at rejected
    cases rejected

/-- A draw takes words up to the first that is accepted. -/
theorem exists_stop (n : Nat) (supply : Supply) (i : Nat) :
    ∃ stop value, i ≤ stop ∧ (∀ k, i ≤ k → k < stop → ofWord? n (supply.get k) = none) ∧
      ofWord? n (supply.get stop) = some value ∧ draw n supply i = (value, stop + 1) := by
  -- By induction on the count of the given words that are left.
  induction left : supply.length - i generalizing i with
  | zero =>
    have accepted : ofWord? n (supply.get i) = some 1 := ofWord?_get_of_le (by omega)
    exact ⟨i, 1, Nat.le_refl i, fun k from_i before => absurd before (by omega), accepted,
      draw_of_accepted accepted⟩
  | succ left ih =>
    cases first : ofWord? n (supply.get i) with
    | some value =>
      exact ⟨i, value, Nat.le_refl i, fun k from_i before => absurd before (by omega), first,
        draw_of_accepted first⟩
    | none =>
      obtain ⟨stop, value, later, rejected, accepted, draws⟩ := ih (i + 1) (by omega)
      refine ⟨stop, value, by omega, ?_, accepted, (draw_of_rejected first).trans draws⟩
      intro k from_i before
      rcases Nat.eq_or_lt_of_le from_i with rfl | after
      · exact first
      · exact rejected k after before

/-- A draw is within its range, whatever words are supplied. -/
theorem draw_range (positive : 0 < n) (fits : n < wordCount) (supply : Supply) (i : Nat) :
    1 ≤ (draw n supply i).1 ∧ (draw n supply i).1 ≤ n := by
  obtain ⟨stop, value, -, -, accepted, draws⟩ := exists_stop n supply i
  rw [draws]
  exact range_of_ofWord? positive fits accepted

end BoardDiagnostics.Uniform
