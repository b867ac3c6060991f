import BoardDiagnostics.Ledger.Transaction

/-!
# What a signature commits to

The octets that are hashed for a signature hold every field of a transaction, but the length of a
script only up to multiples of 256.  So the end of the earlier output's script is not always marked:
a script can swallow the fields behind it together with the front of the new output's script, and
another output can begin there (`Spend.Swallows`).  The main statement,
`signedOctets_eq_iff_swallowed`, is that this is the only way in which two transactions can be
hashed alike, and that it takes scripts of at least 256 octets.  Transactions whose earlier scripts
are of one length are told apart in any case (`eq_of_signedOctets_eq`).
-/

set_option autoImplicit false

namespace BoardDiagnostics

/-- Numbers that fit are told apart by their octets. -/
theorem Octets.littleEndian_inj {count n m : Nat} (fits : n < Nat.pow 256 count)
    (fits' : m < Nat.pow 256 count)
    (same : Octets.littleEndian count n = Octets.littleEndian count m) : n = m := by
  induction count generalizing n m with
  | zero =>
    have : Nat.pow 256 0 = 1 := rfl
    omega
  | succ count ih =>
    have power : Nat.pow 256 (count + 1) = Nat.pow 256 count * 256 := rfl
    obtain ⟨low, high⟩ := List.cons.inj same
    have quotients : n / 256 = m / 256 := by
      apply ih _ _ high
      · exact Nat.div_lt_of_lt_mul (by omega)
      · exact Nat.div_lt_of_lt_mul (by omega)
    have remainders : n % 256 = m % 256 := by
      have := congrArg UInt8.toNat low
      rwa [UInt8.toNat_ofNat', UInt8.toNat_ofNat'] at this
    omega

namespace Ledger

/-- Output indices are told apart by their four octets. -/
theorem littleEndian_index_inj {n m : UInt32}
    (same : Octets.littleEndian 4 n.toNat = Octets.littleEndian 4 m.toNat) : n = m := by
  have fits : ∀ k : UInt32, k.toNat < Nat.pow 256 4 := fun k => k.toNat_lt
  exact UInt32.toNat_inj.mp (Octets.littleEndian_inj (fits n) (fits m) same)

/-- Amounts are told apart by their eight octets. -/
theorem littleEndian_value_inj {n m : UInt64}
    (same : Octets.littleEndian 8 n.toNat = Octets.littleEndian 8 m.toNat) : n = m := by
  have fits : ∀ k : UInt64, k.toNat < Nat.pow 256 8 := fun k => k.toNat_lt
  exact UInt64.toNat_inj.mp (Octets.littleEndian_inj (fits n) (fits m) same)

/-- Of two ways to cut a string in two, the one with the shorter front leaves more behind. -/
theorem exists_of_append_eq {front rest longer last : Octets}
    (same : front ++ rest = longer ++ last) (shorter : front.length ≤ longer.length) :
    ∃ more, longer = front ++ more ∧ rest = more ++ last := by
  rcases List.append_eq_append_iff.mp same with cut | ⟨back, rfl, rfl⟩
  · exact cut
  · have empty : back = [] := by
      rw [List.length_append] at shorter
      exact List.eq_nil_of_length_eq_zero (by omega)
    subst empty
    exact ⟨[], by simp, by simp⟩

/-- The length octets of two scripts are equal exactly if the lengths differ by a multiple of
256. -/
theorem lengthOctet_eq_iff {n m : Nat} : UInt8.ofNat n = UInt8.ofNat m ↔ n % 256 = m % 256 := by
  rw [← UInt8.toNat_inj, UInt8.toNat_ofNat', UInt8.toNat_ofNat']

namespace Spend

/-- The octets in front of the scripts: the version, the count of inputs and the earlier output. -/
def opening (previous : OutPoint) : Octets :=
  Octets.littleEndian 4 1 ++ [1] ++ previous.txid.toList ++ Octets.littleEndian 4 previous.index.toNat

/-- The octets between the scripts: the sequence number, the count of outputs, and the value and the
length of the new output. -/
def between (output : Output) : Octets :=
  Octets.littleEndian 4 0xffffffff ++ [1] ++ Octets.littleEndian 8 output.value.toNat ++
    [UInt8.ofNat output.script.length]

/-- The octets behind the scripts: the lock time and the kind of the signature. -/
def closing : Octets := Octets.littleEndian 4 0 ++ Octets.littleEndian 4 wholeTransaction.toNat

/-- The earlier script of one transaction is that of another one, followed by the fields behind it
and by the front of its output's script; what is left of the output's script gives the fields and
the output of the first transaction. -/
def Swallows (spend other : Spend) : Prop :=
  spend.previous = other.previous ∧ ∃ front : Octets,
    (between other.output ++ front).length % 256 = 0 ∧
    spend.previousScript = other.previousScript ++ between other.output ++ front ∧
    other.output.script = front ++ between spend.output ++ spend.output.script

/-- What is signed: the opening, the length of the script spent, its octets and those of the output,
and the closing. -/
theorem signedOctets_eq_parts (spend : Spend) :
    spend.signedOctets = opening spend.previous ++ UInt8.ofNat spend.previousScript.length ::
      (spend.previousScript ++ (between spend.output ++ spend.output.script) ++ closing) := by
  simp only [signedOctets, opening, between, closing, List.append_assoc, List.cons_append,
    List.nil_append]

/-- The opening has 41 octets. -/
theorem length_opening (previous : OutPoint) : (opening previous).length = 41 := by
  simp [opening]

/-- Between the two scripts stand fourteen octets. -/
@[simp] theorem length_between (output : Output) : (between output).length = 14 := by
  simp [between]

/-- The opening tells the outputs spent apart. -/
theorem opening_injective {previous other : OutPoint} (same : opening previous = opening other) :
    previous = other := by
  obtain ⟨txids, indices⟩ := List.append_inj' same (by simp)
  have txid : previous.txid = other.txid :=
    Vector.toList_inj.mp (List.append_cancel_left txids)
  have index : previous.index = other.index := littleEndian_index_inj indices
  cases previous
  cases other
  cases txid
  cases index
  rfl

/-- What stands behind the earlier script determines the output. -/
theorem output_eq_of_between_append {output other : Output}
    (same : between output ++ output.script = between other ++ other.script) : output = other := by
  obtain ⟨betweens, script⟩ := List.append_inj same (by simp)
  obtain ⟨values, -⟩ := List.append_inj' betweens rfl
  have value : output.value = other.value :=
    littleEndian_value_inj (List.append_cancel_left values)
  cases output
  cases other
  cases value
  cases script
  rfl

/-- Two spends are signed alike exactly if they spend the same output, the lengths of their scripts
agree as octets, and what follows these lengths agrees. -/
theorem signedOctets_eq_iff {spend other : Spend} :
    spend.signedOctets = other.signedOctets ↔
      spend.previous = other.previous ∧
      spend.previousScript.length % 256 = other.previousScript.length % 256 ∧
      spend.previousScript ++ (between spend.output ++ spend.output.script) =
        other.previousScript ++ (between other.output ++ other.output.script) := by
  rw [signedOctets_eq_parts, signedOctets_eq_parts]
  constructor
  · intro same
    obtain ⟨openings, rests⟩ := List.append_inj same (by simp [length_opening])
    obtain ⟨lengths, rests⟩ := List.cons.inj rests
    exact ⟨opening_injective openings, lengthOctet_eq_iff.mp lengths,
      List.append_cancel_right rests⟩
  · rintro ⟨previous, lengths, scripts⟩
    rw [previous, lengthOctet_eq_iff.mpr lengths, scripts]

/-- The octets tell transactions apart whose earlier scripts have the same length. -/
theorem eq_of_signedOctets_eq {spend other : Spend}
    (lengths : spend.previousScript.length = other.previousScript.length)
    (same : spend.signedOctets = other.signedOctets) : spend = other := by
  obtain ⟨previous, -, scripts⟩ := signedOctets_eq_iff.mp same
  obtain ⟨previousScript, outputs⟩ := List.append_inj scripts lengths
  have output := output_eq_of_between_append outputs
  cases spend
  cases other
  cases previous
  cases previousScript
  cases output
  rfl

/-- Of two spends signed alike, the one with the longer script swallows the other. -/
theorem swallows_of_longer {spend other : Spend}
    (longer : other.previousScript.length < spend.previousScript.length)
    (same : spend.signedOctets = other.signedOctets) : spend.Swallows other := by
  obtain ⟨previous, lengths, scripts⟩ := signedOctets_eq_iff.mp same
  -- The longer script goes on behind the shorter one by a multiple of 256 octets, more than the
  -- fourteen that stand between the scripts, so it takes in all of these.
  obtain ⟨more, script, rests⟩ := exists_of_append_eq scripts.symm (Nat.le_of_lt longer)
  rw [script, List.length_append] at lengths longer
  obtain ⟨front, rfl, output⟩ := exists_of_append_eq rests (by rw [length_between]; omega)
  refine ⟨previous, front, by omega, ?_, ?_⟩
  · rw [script, List.append_assoc]
  · rw [output, List.append_assoc]

/-- A spend is signed as the one that it swallows. -/
theorem signedOctets_eq_of_swallows {spend other : Spend} (swallows : spend.Swallows other) :
    spend.signedOctets = other.signedOctets := by
  obtain ⟨previous, front, whole, script, output⟩ := swallows
  refine signedOctets_eq_iff.mpr ⟨previous, ?_, ?_⟩
  · rw [script, List.append_assoc, List.length_append]
    omega
  · rw [script, output]
    simp only [List.append_assoc]

/-- Swallowing takes scripts of 256 octets and more on both sides. -/
theorem Swallows.lengths {spend other : Spend} (swallows : spend.Swallows other) :
    256 ≤ spend.previousScript.length ∧ 256 ≤ other.output.script.length := by
  obtain ⟨-, front, whole, script, output⟩ := swallows
  rw [List.length_append, length_between] at whole
  constructor
  · rw [script, List.length_append, List.length_append, length_between]
    omega
  · rw [output, List.length_append, List.length_append, length_between]
    omega

/-- Two transactions are hashed alike exactly if they are the same or one swallows the other, which
takes an earlier script and an output script of at least 256 octets each. -/
theorem signedOctets_eq_iff_swallowed (spend other : Spend) :
    (spend.signedOctets = other.signedOctets ↔
      spend = other ∨ spend.Swallows other ∨ other.Swallows spend) ∧
    (spend.Swallows other →
      256 ≤ spend.previousScript.length ∧ 256 ≤ other.output.script.length) := by
  refine ⟨⟨fun same => ?_, ?_⟩, Swallows.lengths⟩
  · rcases Nat.lt_trichotomy spend.previousScript.length other.previousScript.length with
      shorter | equal | longer
    · exact .inr (.inr (swallows_of_longer shorter same.symm))
    · exact .inl (eq_of_signedOctets_eq equal same)
    · exact .inr (.inl (swallows_of_longer longer same))
  · rintro (rfl | swallows | swallows)
    · rfl
    · exact signedOctets_eq_of_swallows swallows
    · exact (signedOctets_eq_of_swallows swallows).symm

/-- An output script of 256 octets, whose length octet is zero, with the fields of an output without
a script at its end. -/
def swallowed : Spend where
  previous := ⟨Vector.replicate 32 0, 0⟩
  previousScript := []
  output := ⟨0, List.replicate 242 0 ++ between ⟨0, []⟩⟩

/-- The transaction that takes this output script for the end of the earlier script. -/
def swallowing : Spend where
  previous := ⟨Vector.replicate 32 0, 0⟩
  previousScript := between swallowed.output ++ List.replicate 242 0
  output := ⟨0, []⟩

/-- The octets that are hashed do not determine the transaction. -/
theorem swallowing_signed_as_swallowed :
    swallowing.signedOctets = swallowed.signedOctets ∧ swallowing ≠ swallowed := by
  decide +kernel

/-- In the example, 256 octets are swallowed by a script of 256 octets. -/
theorem swallowing_takes_256_octets :
    swallowing.Swallows swallowed ∧
      256 ≤ swallowing.previousScript.length ∧ 256 ≤ swallowed.output.script.length := by
  have swallows : swallowing.Swallows swallowed := by
    refine ⟨rfl, List.replicate 242 0, ?_, rfl, (List.append_nil _).symm⟩
    rw [List.length_append, length_between, List.length_replicate]
  exact ⟨swallows, (signedOctets_eq_iff_swallowed _ _).2 swallows⟩

end Spend

end Ledger

end BoardDiagnostics
