import BoardDiagnostics.Proofs.Ledger.Commitment
import BoardDiagnostics.Proofs.Ledger.Signing

/-!
# The message of a check

`AsksAbout` says that a check of a spend comes down to the check of a signature of a message: in
place of the scheme's own check any other one would have decided with its answer about that message.
The main statement, `message_binds_spend`, is that the message is the hash of the octets of the
transaction, and that here, unlike over all transactions, these octets leave only one of them: all
scripts of earlier outputs that come so far have the same length.
-/

set_option autoImplicit false

namespace BoardDiagnostics.Ledger

/-- The scheme with another check of signatures. -/
def Scheme.withCheck (scheme : Scheme)
    (check : scheme.Public → Octets → scheme.Signature → Bool) : Scheme :=
  { scheme with verifies := check }

/-- Whether the spend is accepted is the answer to one question: is there a valid signature of this
message? -/
def AsksAbout (scheme : Scheme) (signatureScript : Octets) (spend : Spend) (message : Octets) :
    Prop :=
  ∃ verifier signature, ∀ check,
    verifyInput (scheme.withCheck check) signatureScript spend =
      if check verifier message signature then .ok ()
      else .error (schemeFailure.within "signature does not verify")

section

variable {scheme : Scheme} {signatureScript : Octets} {spend : Spend}

/-- Whether a spend comes to the check does not depend on what the check says. -/
theorem comesToCheck_withCheck_iff {check : scheme.Public → Octets → scheme.Signature → Bool}
    {verifier : scheme.Public} {signature : scheme.Signature} :
    ComesToCheck (scheme.withCheck check) signatureScript spend verifier signature ↔
      ComesToCheck scheme signatureScript spend verifier signature := by
  constructor
  · rintro ⟨pays, pushed, owned, key_read, signature_read⟩
    exact .intro pays pushed owned key_read signature_read
  · rintro ⟨pays, pushed, owned, key_read, signature_read⟩
    exact .intro pays pushed owned key_read signature_read

/-- A spend that comes to the check is checked against the digest of its octets. -/
theorem ComesToCheck.asksAbout {verifier : scheme.Public} {signature : scheme.Signature}
    (comes : ComesToCheck scheme signatureScript spend verifier signature) :
    AsksAbout scheme signatureScript spend (doubleSha256 spend.signedOctets) := by
  refine ⟨verifier, signature, fun check => ?_⟩
  have comes' : ComesToCheck (scheme.withCheck check) signatureScript spend verifier signature :=
    comesToCheck_withCheck_iff.mpr comes
  exact comes'.verifyInput_eq

/-- A message that is asked about is the digest of the spend's octets, and the spend has come to the
check. -/
theorem AsksAbout.comesToCheck {message : Octets}
    (asks : AsksAbout scheme signatureScript spend message) :
    message = doubleSha256 spend.signedOctets ∧
      ∃ verifier signature, ComesToCheck scheme signatureScript spend verifier signature := by
  obtain ⟨verifier, signature, decides⟩ := asks
  -- A check that says yes to nothing but the message gives the message away.
  have accepted := decides fun _ asked _ => asked == message
  rw [if_pos (beq_self_eq_true message)] at accepted
  obtain ⟨verifier, signature, comes, same⟩ := exists_comesToCheck_of_ok accepted
  refine ⟨(eq_of_beq same).symm, verifier, signature, ?_⟩
  exact comesToCheck_withCheck_iff.mp comes

/-- Only a spend of a pay-to-key-hash output is checked, so the script it spends has 25 octets. -/
theorem AsksAbout.length_previousScript {message : Octets}
    (asks : AsksAbout scheme signatureScript spend message) : spend.previousScript.length = 25 := by
  obtain ⟨-, _, _, ⟨pays, _, _, _, _⟩⟩ := asks.comesToCheck
  rw [pays]
  exact length_payToKeyHash _

end

/-- Of two spends whose signatures are checked, each is checked against the hash of the octets of
its own transaction, and the octets are equal only if the transactions are. -/
theorem message_binds_spend {scheme : Scheme} {script script' : Octets} {spend spend' : Spend}
    {message message' : Octets} (asks : AsksAbout scheme script spend message)
    (asks' : AsksAbout scheme script' spend' message') :
    message = doubleSha256 spend.signedOctets ∧ message' = doubleSha256 spend'.signedOctets ∧
      (spend.signedOctets = spend'.signedOctets ↔
        spend.previous = spend'.previous ∧ spend.previousScript = spend'.previousScript ∧
          spend.output.value = spend'.output.value ∧ spend.output.script = spend'.output.script) := by
  refine ⟨asks.comesToCheck.1, asks'.comesToCheck.1, ?_, ?_⟩
  · intro same
    have lengths : spend.previousScript.length = spend'.previousScript.length := by
      rw [asks.length_previousScript, asks'.length_previousScript]
    obtain rfl := Spend.eq_of_signedOctets_eq lengths same
    exact ⟨rfl, rfl, rfl, rfl⟩
  · rintro ⟨previous, previousScript, value, script⟩
    unfold Spend.signedOctets
    rw [previous, previousScript, value, script]

/-- The output that pays to the hash of the public key of three, spent for another script. -/
def spentFor (script : Octets) : Spend := { ownedByThree with output := ⟨1, script⟩ }

/-- A signature that nobody made. -/
def madeUpSignature : secp256k1.Signature := Secp256k1.Signature.mk 1 1

/-- What is pushed with the made-up signature. -/
def madeUpContents : List Octets :=
  [secp256k1.signatureOctets madeUpSignature ++ [Spend.wholeTransaction],
    secp256k1.publicOctets (3 : Nat)]

/-- The signature script with the made-up signature. -/
def madeUpScript : Octets := madeUpContents.flatMap push

/-- The spend of the made-up script comes to the check, whatever script it pays to. -/
theorem asksAbout_spentFor (script : Octets) :
    AsksAbout secp256k1 madeUpScript (spentFor script)
      (doubleSha256 (spentFor script).signedOctets) := by
  have counts : ∀ content ∈ madeUpContents, 1 ≤ content.length ∧ content.length ≤ 255 := by
    decide +kernel
  have signature_read : secp256k1.signature? (secp256k1.signatureOctets madeUpSignature) =
      some madeUpSignature := by
    decide +kernel
  have comes : ComesToCheck secp256k1 madeUpScript (spentFor script) _ _ :=
    .intro rfl (arePushes_flatMap_push counts) rfl ownedByThree_sound.key_read signature_read
  exact comes.asksAbout

/-- Two output scripts with the same length octet: none, and one of 256 octets. -/
theorem message_tells_256_octets_from_none :
    AsksAbout secp256k1 madeUpScript (spentFor []) (doubleSha256 (spentFor []).signedOctets) ∧
      AsksAbout secp256k1 madeUpScript (spentFor (List.replicate 256 0))
        (doubleSha256 (spentFor (List.replicate 256 0)).signedOctets) ∧
      (spentFor []).signedOctets ≠ (spentFor (List.replicate 256 0)).signedOctets := by
  have asks := asksAbout_spentFor []
  have asks' := asksAbout_spentFor (List.replicate 256 0)
  refine ⟨asks, asks', ?_⟩
  intro same
  obtain ⟨-, -, -, script⟩ := (message_binds_spend asks asks').2.2.mp same
  cases script

end BoardDiagnostics.Ledger
