import BoardDiagnostics.Proofs.Ledger.Verification

/-!
# Signing a spend

What signing relies on of a scheme is collected in `Scheme.SoundFor`: for a secret key and a digest,
there is a signature that verifies, both encodings are read back, and they have the lengths that
fit into short pushes.  The main statement, `signed_spend_is_accepted`, is that then the signature
script for an output that pays to the hash of the key is accepted for the transaction that was
signed.
-/

set_option autoImplicit false

namespace BoardDiagnostics.Ledger

/-- A scheme does what it should for a secret key and a digest. -/
structure Scheme.SoundFor (scheme : Scheme) (secret : scheme.Secret) (digest : Octets) : Prop where
  /-- The digest can be signed, -/
  signs : ∃ signature, scheme.sign secret digest = some signature
  /-- and the public key verifies what the secret key signed. -/
  verifies : ∀ signature, scheme.sign secret digest = some signature →
    scheme.verifies (scheme.publicOf secret) digest signature = true
  /-- A signature is read back from its encoding, -/
  signature_read : ∀ signature, scheme.sign secret digest = some signature →
    scheme.signature? (scheme.signatureOctets signature) = some signature
  /-- which has between one and seventy-two octets. -/
  signature_length : ∀ signature, scheme.sign secret digest = some signature →
    1 ≤ (scheme.signatureOctets signature).length ∧
      (scheme.signatureOctets signature).length ≤ 72
  /-- The public key is read back from its encoding, -/
  key_read : scheme.public? (scheme.publicOctets secret) = some (scheme.publicOf secret)
  /-- which has thirty-three octets. -/
  key_length : (scheme.publicOctets secret).length = 33

variable (scheme : Scheme) (secret : scheme.Secret)

/-- Signing pushes the marked signature and the public key. -/
theorem signInput_of_sign {spend : Spend} {signature : scheme.Signature}
    (signed : scheme.sign secret spend.digest = some signature) :
    signInput scheme secret spend =
      .ok ([scheme.signatureOctets signature ++ [Spend.wholeTransaction],
        scheme.publicOctets secret].flatMap push) := by
  unfold signInput
  rw [ofScheme_eq_ok_iff.mpr signed]
  simp only [List.flatMap_cons, List.flatMap_nil, List.append_nil]

/-- For an output that pays to the hash of a public key, the script that is signed with the secret
key is accepted for the same transaction. -/
theorem signed_spend_is_accepted (previous : OutPoint) (output : Output) :
    let spend : Spend := ⟨previous, payToKeyHash (hash160 (scheme.publicOctets secret)), output⟩
    scheme.SoundFor secret spend.digest →
      ∃ script, signInput scheme secret spend = .ok script ∧
        verifyInput scheme script spend = .ok () := by
  intro spend sound
  obtain ⟨signature, signed⟩ := sound.signs
  refine ⟨_, signInput_of_sign scheme secret signed, ?_⟩
  have lengths := sound.signature_length signature signed
  have counts : ∀ content ∈ [scheme.signatureOctets signature ++ [Spend.wholeTransaction],
      scheme.publicOctets secret], 1 ≤ content.length ∧ content.length ≤ 255 := by
    refine List.forall_mem_cons.mpr ⟨?_, List.forall_mem_singleton.mpr ?_⟩
    · rw [List.length_append, List.length_singleton]
      omega
    · rw [sound.key_length]
      omega
  have comes : ComesToCheck scheme _ spend (scheme.publicOf secret) signature :=
    .intro rfl (arePushes_flatMap_push counts) rfl sound.key_read
      (sound.signature_read signature signed)
  rw [comes.verifyInput_eq]
  exact if_pos (sound.verifies signature signed)

/-- An output that pays to the hash of the public key of three, spent for one that nobody can
spend. -/
def ownedByThree : Spend where
  previous := ⟨Vector.replicate 32 7, 1⟩
  previousScript := payToKeyHash (hash160 (secp256k1.publicOctets (3 : Nat)))
  output := ⟨1, [Op.ret]⟩

/-- What is signed for the example. -/
def ownedByThreeDigest : Octets :=
  [118, 235, 225, 86, 100, 103, 0, 137, 181, 129, 76, 210, 111, 229, 194, 82,
    83, 115, 86, 230, 77, 10, 191, 88, 112, 127, 241, 88, 247, 164, 169, 4]

/-- The signature of the example with the secret key three. -/
def ownedByThreeSignature : secp256k1.Signature :=
  Secp256k1.Signature.mk
    75782528376120713417165980726303246768002177047858558654096071873557537628843
    48814246051534219850265866319519305654013007692163420987913003528293017666256

/-- The digest of the example, octet by octet. -/
theorem ownedByThree_digest : ownedByThree.digest = ownedByThreeDigest := by decide +kernel

/-- The curve is sound for the key and digest of the example. -/
theorem ownedByThree_sound : secp256k1.SoundFor (3 : Nat) ownedByThree.digest := by
  rw [ownedByThree_digest]
  have signed : secp256k1.sign (3 : Nat) ownedByThreeDigest = some ownedByThreeSignature := by
    decide +kernel
  -- Signing is a function, so what holds of this signature holds of every one that is made.
  have only : ∀ signature, secp256k1.sign (3 : Nat) ownedByThreeDigest = some signature →
      signature = ownedByThreeSignature := by
    intro signature made
    exact Option.some.inj (made.symm.trans signed)
  constructor
  case signs => exact ⟨ownedByThreeSignature, signed⟩
  case verifies =>
    intro signature made
    rw [only signature made]
    decide +kernel
  case signature_read =>
    intro signature made
    rw [only signature made]
    decide +kernel
  case signature_length =>
    intro signature made
    rw [only signature made]
    decide +kernel
  case key_read => decide +kernel
  case key_length => decide +kernel

/-- The example is signed, and accepted. -/
theorem ownedByThree_is_accepted :
    secp256k1.SoundFor (3 : Nat) ownedByThree.digest ∧
      ∃ script, signInput secp256k1 (3 : Nat) ownedByThree = .ok script ∧
        verifyInput secp256k1 script ownedByThree = .ok () := by
  have sound := ownedByThree_sound
  refine ⟨sound, ?_⟩
  exact signed_spend_is_accepted secp256k1 (3 : Nat) ownedByThree.previous ownedByThree.output sound

end BoardDiagnostics.Ledger
