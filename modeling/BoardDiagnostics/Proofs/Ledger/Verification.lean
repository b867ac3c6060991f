import BoardDiagnostics.Proofs.Ledger.Bounds

/-!
# Checking a spend

`ComesToCheck` lists what a signature script and the script of the earlier output have to be for the
scheme to be asked about a signature.  Then its answer decides (`ComesToCheck.verifyInput_eq`), and
otherwise the spend is refused.  The main statement, `verification_is_exact`, is that the check
always ends within the bounds of its inputs and accepts the valid spends and nothing else.
-/

set_option autoImplicit false

namespace BoardDiagnostics.Ledger

/-- The earlier output pays to the hash of a key; the signature script pushes a signature with the
mark of the whole transaction, and then a key with that hash, and nothing else; both can be read. -/
inductive ComesToCheck (scheme : Scheme) (signatureScript : Octets) (spend : Spend)
    (verifier : scheme.Public) (signature : scheme.Signature) : Prop where
  | intro {hash : Hash160} {der key : Octets}
      (pays : spend.previousScript = payToKeyHash hash)
      (pushed : ArePushes [der ++ [Spend.wholeTransaction], key] signatureScript)
      (owned : hash160 key = hash)
      (key_read : scheme.public? key = some verifier)
      (signature_read : scheme.signature? der = some signature)

/-- What the scheme gives is handed on as it is. -/
theorem ofScheme_eq_ok_iff {α : Type} {context : String} {result : Option α} {a : α} :
    ofScheme context result = .ok a ↔ result = some a := by
  cases result <;> simp [ofScheme]

section

variable {scheme : Scheme} {signatureScript : Octets} {spend : Spend}

/-- With key and signature read, the check decides. -/
theorem verifyPushes_of_read {hash : Hash160} {der key : Octets} {verifier : scheme.Public}
    {signature : scheme.Signature} (owned : hash160 key = hash)
    (key_read : scheme.public? key = some verifier)
    (signature_read : scheme.signature? der = some signature) :
    verifyPushes scheme spend hash (der ++ [Spend.wholeTransaction]) key =
      if scheme.verifies verifier spend.digest signature then .ok ()
      else .error (schemeFailure.within "signature does not verify") := by
  unfold verifyPushes
  rw [if_neg (not_not_intro owned), List.getLast?_concat, List.dropLast_concat,
    ofScheme_eq_ok_iff.mpr key_read, ofScheme_eq_ok_iff.mpr signature_read]
  rfl

/-- What is accepted is owned by the key, marked as a signature of the whole transaction, read by
the scheme, and checked. -/
theorem exists_read_of_verifyPushes {hash : Hash160} {marked key : Octets}
    (accepted : verifyPushes scheme spend hash marked key = .ok ()) :
    hash160 key = hash ∧ ∃ der verifier signature,
      marked = der ++ [Spend.wholeTransaction] ∧ scheme.public? key = some verifier ∧
      scheme.signature? der = some signature ∧
      scheme.verifies verifier spend.digest signature = true := by
  unfold verifyPushes at accepted
  -- Each of the five tests has one branch that is refused and one that leads on.
  split at accepted
  case isTrue => cases accepted
  case isFalse owned =>
    split at accepted
    case h_1 => cases accepted
    case h_2 mark last =>
      split at accepted
      case isTrue => cases accepted
      case isFalse whole =>
        split at accepted
        case h_1 => cases accepted
        case h_2 verifier key_read =>
          split at accepted
          case h_1 => cases accepted
          case h_2 signature signature_read =>
            split at accepted
            case isTrue valid =>
              obtain ⟨der, rfl⟩ := List.getLast?_eq_some_iff.mp last
              rw [List.dropLast_concat] at signature_read
              refine ⟨Classical.not_not.mp owned, der, verifier, signature, ?_, ?_, ?_, valid⟩
              · rw [Classical.not_not.mp whole]
              · exact ofScheme_eq_ok_iff.mp key_read
              · exact ofScheme_eq_ok_iff.mp signature_read
            case isFalse => cases accepted

/-- Once the scheme is asked, its answer about the digest of the transaction decides. -/
theorem ComesToCheck.verifyInput_eq {verifier : scheme.Public} {signature : scheme.Signature}
    (comes : ComesToCheck scheme signatureScript spend verifier signature) :
    verifyInput scheme signatureScript spend =
      if scheme.verifies verifier (doubleSha256 spend.signedOctets) signature then .ok ()
      else .error (schemeFailure.within "signature does not verify") := by
  obtain ⟨pays, pushed, owned, key_read, signature_read⟩ := comes
  rw [verifyInput_of_payToKeyHash scheme signatureScript pays, pushes_of_arePushes pushed]
  exact verifyPushes_of_read owned key_read signature_read

/-- An accepted spend has come to the check and passed it. -/
theorem exists_comesToCheck_of_ok (accepted : verifyInput scheme signatureScript spend = .ok ()) :
    ∃ verifier signature, ComesToCheck scheme signatureScript spend verifier signature ∧
      scheme.verifies verifier spend.digest signature = true := by
  by_cases paid : (classify spend.previousScript).scriptClass = .pubKeyHash
  · obtain ⟨hash, pays⟩ := classify_pubKeyHash_iff.mp paid
    rw [verifyInput_of_payToKeyHash scheme signatureScript pays] at accepted
    split at accepted
    case h_1 => cases accepted
    case h_2 marked key read =>
      obtain ⟨owned, der, verifier, signature, rfl, key_read, signature_read, valid⟩ :=
        exists_read_of_verifyPushes accepted
      have pushed := arePushes_of_pushes read
      exact ⟨verifier, signature, .intro pays pushed owned key_read signature_read, valid⟩
    case h_3 => cases accepted
  · rw [verifyInput_of_foreign scheme signatureScript paid] at accepted
    cases accepted

/-- A spend is accepted exactly if it comes to the check and passes it. -/
theorem verifyInput_eq_ok_iff :
    verifyInput scheme signatureScript spend = .ok () ↔
      ∃ verifier signature, ComesToCheck scheme signatureScript spend verifier signature ∧
        scheme.verifies verifier spend.digest signature = true := by
  constructor
  · exact exists_comesToCheck_of_ok
  · rintro ⟨verifier, signature, comes, valid⟩
    exact comes.verifyInput_eq.trans (if_pos valid)

end

/-- What can be relied on of the check of a spend. -/
structure ChecksExactly (scheme : Scheme) (signatureScript : Octets) (spend : Spend) : Prop where
  /-- No access to a script leaves it, and the check has a result. -/
  within_bounds :
    verifyInput? scheme signatureScript spend = some (verifyInput scheme signatureScript spend)
  /-- It accepts exactly the spends for which the scheme is asked and says yes. -/
  accepts_iff : verifyInput scheme signatureScript spend = .ok () ↔
    ∃ verifier signature, ComesToCheck scheme signatureScript spend verifier signature ∧
      scheme.verifies verifier spend.digest signature = true
  /-- A key with another hash is refused, whatever is pushed as its signature. -/
  refuses_other_keys : ∀ hash marked key, spend.previousScript = payToKeyHash hash →
    ArePushes [marked, key] signatureScript → hash160 key ≠ hash →
    verifyInput scheme signatureScript spend =
      .error (.of "public key does not match output hash")
  /-- More or fewer than two pushes are refused, -/
  refuses_other_counts : ∀ hash contents, spend.previousScript = payToKeyHash hash →
    ArePushes contents signatureScript → contents.length ≠ 2 →
    verifyInput scheme signatureScript spend =
      .error (.of ("signature script has " ++ toString contents.length ++ " pushes, want 2"))
  /-- and so is what is no row of pushes, such as pushes with something behind them. -/
  refuses_other_scripts : (∀ contents, ¬ ArePushes contents signatureScript) →
    ∃ reasons, verifyInput scheme signatureScript spend = .error reasons

/-- The check of every spend ends and accepts exactly the valid ones, whatever the scripts are. -/
theorem verification_is_exact (scheme : Scheme) (signatureScript : Octets) (spend : Spend) :
    ChecksExactly scheme signatureScript spend := by
  constructor
  case within_bounds => exact verifyInput?_eq_some scheme signatureScript spend
  case accepts_iff => exact verifyInput_eq_ok_iff
  case refuses_other_keys =>
    intro hash marked key pays pushed foreign
    rw [verifyInput_of_payToKeyHash scheme signatureScript pays, pushes_of_arePushes pushed]
    exact if_pos foreign
  case refuses_other_counts =>
    intro hash contents pays pushed count
    rw [verifyInput_of_payToKeyHash scheme signatureScript pays, pushes_of_arePushes pushed]
    match contents with
    | [] => rfl
    | [_] => rfl
    | [_, _] => exact absurd rfl count
    | _ :: _ :: _ :: _ => rfl
  case refuses_other_scripts =>
    intro unpushed
    cases result : verifyInput scheme signatureScript spend with
    | error reasons => exact ⟨reasons, rfl⟩
    | ok _ =>
      obtain ⟨_, _, ⟨_, pushed, _, _, _⟩, _⟩ := exists_comesToCheck_of_ok result
      exact (unpushed _ pushed).elim

end BoardDiagnostics.Ledger
