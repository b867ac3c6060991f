import BoardDiagnostics.Ledger.Script

/-!
# Templates of output scripts

The hash between a head and a tail is found exactly in the scripts that are put together from the
three (`hashBetween?_eq_some_iff`).  So a script belongs to the class that pays to the hash of a
public key exactly if it is that template for some hash, and the hash is the only one that is read
off it (`classify_of_payToKeyHash`, `classify_pubKeyHash_iff`).
-/

set_option autoImplicit false

namespace BoardDiagnostics.Ledger

/-- A pay-to-key-hash script has 25 octets. -/
theorem length_payToKeyHash (hash : Hash160) : (payToKeyHash hash).length = 25 := by
  simp [payToKeyHash, keyHashHead, keyHashTail]

/-- Between a head and a tail, a hash can be told from any other. -/
theorem hash_eq_of_framed {head tail : Octets} {hash other : Hash160}
    (same : head ++ hash.toList ++ tail = head ++ other.toList ++ tail) : hash = other := by
  rw [List.append_assoc, List.append_assoc] at same
  have behind := List.append_cancel_left same
  exact Vector.toList_inj.mp (List.append_cancel_right behind)

/-- A pay-to-key-hash script is that of one hash only. -/
theorem payToKeyHash_injective {hash other : Hash160} (same : payToKeyHash hash = payToKeyHash other) :
    hash = other :=
  hash_eq_of_framed same

/-- A hash is found exactly if the script is that hash in its frame. -/
theorem hashBetween?_eq_some_iff {head tail script : Octets} {hash : Hash160} :
    hashBetween? head tail script = some hash ↔ script = head ++ hash.toList ++ tail := by
  constructor
  · intro found
    simp only [hashBetween?] at found
    split at found
    case isTrue framed =>
      obtain rfl := Option.some.inj found
      exact framed.2
    case isFalse => cases found
  · rintro rfl
    have middle : ((head ++ hash.toList ++ tail).drop head.length).take 20 = hash.toList := by
      rw [List.append_assoc, List.drop_left]
      exact List.take_left' hash.length_toList
    unfold hashBetween?
    simp only [middle, Vector.length_toList, and_self, dif_pos]
    rfl

/-- No hash is found exactly if the script is no hash in that frame. -/
theorem hashBetween?_eq_none_iff {head tail script : Octets} :
    hashBetween? head tail script = none ↔ ∀ hash : Hash160, script ≠ head ++ hash.toList ++ tail := by
  simp only [Option.eq_none_iff_forall_ne_some, ne_eq, hashBetween?_eq_some_iff]

/-- A pay-to-key-hash script is recognised, with its hash and one signature. -/
theorem classify_of_payToKeyHash (hash : Hash160) :
    classify (payToKeyHash hash) = ⟨.pubKeyHash, [hash], 1⟩ := by
  have found : hashBetween? keyHashHead keyHashTail (payToKeyHash hash) = some hash :=
    hashBetween?_eq_some_iff.mpr rfl
  simp only [classify, found]

/-- Only pay-to-key-hash scripts are put into that class. -/
theorem classify_pubKeyHash_iff {script : Octets} :
    (classify script).scriptClass = .pubKeyHash ↔ ∃ hash, script = payToKeyHash hash := by
  constructor
  · intro paid
    cases found : hashBetween? keyHashHead keyHashTail script with
    | some hash => exact ⟨hash, hashBetween?_eq_some_iff.mp found⟩
    | none =>
      simp only [classify, found] at paid
      split at paid
      · cases paid
      · split at paid <;> cases paid
  · rintro ⟨hash, rfl⟩
    rw [classify_of_payToKeyHash]

end BoardDiagnostics.Ledger
