import BoardDiagnostics.Proofs.Ledger.Bounds

/-!
# Classes of output scripts

`Belongs` lists the classes as they are meant: the two templates with a hash, what begins with the
mark of data, and all the rest.  A script belongs to one class only (`Belongs.unique`), since the
templates differ in their lengths and in their first octets, and `classify` finds it
(`classify_eq_iff`).  The main statement, `scripts_are_classified_exactly`, adds that no script is
read beyond its ends, and that a template and its hash determine each other.
-/

set_option autoImplicit false

namespace BoardDiagnostics.Ledger

/-- A script belongs to a class, with the hashes and the number of signatures that go with it. -/
inductive Belongs (script : Octets) : Addresses → Prop where
  | pubKeyHash (hash : Hash160) (template : script = payToKeyHash hash) :
      Belongs script ⟨.pubKeyHash, [hash], 1⟩
  | scriptHash (hash : Hash160) (template : script = payToScriptHash hash) :
      Belongs script ⟨.scriptHash, [hash], 1⟩
  | nullData (marked : script.head? = some Op.ret) : Belongs script ⟨.nullData, [], 0⟩
  | nonStandard (no_key : ∀ hash, script ≠ payToKeyHash hash)
      (no_script : ∀ hash, script ≠ payToScriptHash hash)
      (unmarked : script.head? ≠ some Op.ret) : Belongs script ⟨.nonStandard, [], 0⟩

/-- The template of a class, if it is one with a hash. -/
def ScriptClass.template? : ScriptClass → Option (Hash160 → Octets)
  | pubKeyHash => some payToKeyHash
  | scriptHash => some payToScriptHash
  | nullData | nonStandard => none

/-! ## Templates -/

/-- A pay-to-script-hash script has 23 octets. -/
theorem length_payToScriptHash (hash : Hash160) : (payToScriptHash hash).length = 23 := by
  simp [payToScriptHash, scriptHashHead, scriptHashTail]

/-- A pay-to-script-hash script is that of one hash only. -/
theorem payToScriptHash_injective {hash other : Hash160}
    (same : payToScriptHash hash = payToScriptHash other) : hash = other :=
  hash_eq_of_framed same

/-- A pay-to-key-hash script is no pay-to-script-hash script. -/
theorem payToKeyHash_ne_payToScriptHash (hash other : Hash160) :
    payToKeyHash hash ≠ payToScriptHash other := by
  intro same
  have lengths := congrArg List.length same
  rw [length_payToKeyHash, length_payToScriptHash] at lengths
  cases lengths

/-- A pay-to-key-hash script is not marked as data. -/
theorem unmarked_payToKeyHash (hash : Hash160) : (payToKeyHash hash).head? ≠ some Op.ret := by
  intro marked
  have first : Op.dup = Op.ret := Option.some.inj marked
  cases first

/-- A pay-to-script-hash script is not marked as data. -/
theorem unmarked_payToScriptHash (hash : Hash160) :
    (payToScriptHash hash).head? ≠ some Op.ret := by
  intro marked
  have first : Op.hash = Op.ret := Option.some.inj marked
  cases first

/-! ## Classes -/

/-- A script belongs to the class that it is put into. -/
theorem belongs_classify (script : Octets) : Belongs script (classify script) := by
  unfold classify
  split
  case h_1 hash found => exact .pubKeyHash hash (hashBetween?_eq_some_iff.mp found)
  case h_2 no_key =>
    split
    case h_1 hash found => exact .scriptHash hash (hashBetween?_eq_some_iff.mp found)
    case h_2 no_script =>
      split
      case isTrue marked => exact .nullData marked
      case isFalse unmarked =>
        apply Belongs.nonStandard
        · exact hashBetween?_eq_none_iff.mp no_key
        · exact hashBetween?_eq_none_iff.mp no_script
        · exact unmarked

/-- A script belongs to one class, with one list of hashes. -/
theorem Belongs.unique {script : Octets} {addresses other : Addresses}
    (first : Belongs script addresses) (second : Belongs script other) : addresses = other := by
  cases first with
  | pubKeyHash hash template =>
    subst template
    cases second with
    | pubKeyHash other same => rw [payToKeyHash_injective same]
    | scriptHash other same => exact (payToKeyHash_ne_payToScriptHash hash other same).elim
    | nullData marked => exact (unmarked_payToKeyHash hash marked).elim
    | nonStandard no_key => exact (no_key hash rfl).elim
  | scriptHash hash template =>
    subst template
    cases second with
    | pubKeyHash other same => exact (payToKeyHash_ne_payToScriptHash other hash same.symm).elim
    | scriptHash other same => rw [payToScriptHash_injective same]
    | nullData marked => exact (unmarked_payToScriptHash hash marked).elim
    | nonStandard _ no_script => exact (no_script hash rfl).elim
  | nullData marked =>
    cases second with
    | pubKeyHash other template =>
      subst template
      exact (unmarked_payToKeyHash other marked).elim
    | scriptHash other template =>
      subst template
      exact (unmarked_payToScriptHash other marked).elim
    | nullData => rfl
    | nonStandard _ _ unmarked => exact (unmarked marked).elim
  | nonStandard no_key no_script unmarked =>
    cases second with
    | pubKeyHash other template => exact (no_key other template).elim
    | scriptHash other template => exact (no_script other template).elim
    | nullData marked => exact (unmarked marked).elim
    | nonStandard => rfl

/-- Classifying finds the class that a script belongs to, and what goes with it. -/
theorem classify_eq_iff {script : Octets} {addresses : Addresses} :
    classify script = addresses ↔ Belongs script addresses := by
  constructor
  · rintro rfl
    exact belongs_classify script
  · exact (belongs_classify script).unique

/-- A class requires as many signatures as it has hashes. -/
theorem Belongs.length_hashes {script : Octets} {addresses : Addresses}
    (belongs : Belongs script addresses) :
    addresses.hashes.length = addresses.requiredSignatures := by
  cases belongs <;> rfl

/-- The template of the class, filled with the hash, is the script again. -/
theorem Belongs.rebuild {script : Octets} {addresses : Addresses}
    (belongs : Belongs script addresses) :
    ∀ hash ∈ addresses.hashes,
      ∃ template, addresses.scriptClass.template? = some template ∧ template hash = script := by
  intro found member
  cases belongs with
  | pubKeyHash hash template =>
    rw [List.mem_singleton.mp member]
    exact ⟨payToKeyHash, rfl, template.symm⟩
  | scriptHash hash template =>
    rw [List.mem_singleton.mp member]
    exact ⟨payToScriptHash, rfl, template.symm⟩
  | nullData => cases member
  | nonStandard => cases member

/-- What can be relied on when a script is classified. -/
structure ClassifiedExactly (script : Octets) : Prop where
  /-- No access to the script leaves it, and there is a result. -/
  within_bounds : classify? script = some (classify script)
  /-- A script asks for a key and one signature exactly if it is the template of the key's hash. -/
  pubKeyHash_iff : ∀ hash : Hash160, classify script = ⟨.pubKeyHash, [hash], 1⟩ ↔
    script = payToKeyHash hash
  /-- A script asks for a script and one signature exactly if it is the template of its hash. -/
  scriptHash_iff : ∀ hash : Hash160, classify script = ⟨.scriptHash, [hash], 1⟩ ↔
    script = [0xa9, 0x14] ++ hash.toList ++ [0x87]
  /-- A script carries data exactly if its first octet says so. -/
  nullData_iff : classify script = ⟨.nullData, [], 0⟩ ↔ script.head? = some 0x6a
  /-- There is no standard way to spend the rest, -/
  nonStandard_iff : classify script = ⟨.nonStandard, [], 0⟩ ↔
    (∀ hash, script ≠ payToKeyHash hash) ∧
      (∀ hash : Hash160, script ≠ [0xa9, 0x14] ++ hash.toList ++ [0x87]) ∧
        script.head? ≠ some 0x6a
  /-- and a class never comes with anything else. -/
  one_of_these : (∃ hash, classify script = ⟨.pubKeyHash, [hash], 1⟩) ∨
    (∃ hash, classify script = ⟨.scriptHash, [hash], 1⟩) ∨
      classify script = ⟨.nullData, [], 0⟩ ∨ classify script = ⟨.nonStandard, [], 0⟩
  /-- There are as many hashes as signatures, -/
  length_hashes : (classify script).hashes.length = (classify script).requiredSignatures
  /-- and the template of the class, filled with a hash that was read off, is the script. -/
  rebuilds : ∀ hash ∈ (classify script).hashes, ∃ template,
    (classify script).scriptClass.template? = some template ∧ template hash = script

/-- Every script is classified exactly, and a hash and its template determine each other. -/
theorem scripts_are_classified_exactly :
    (∀ script, ClassifiedExactly script) ∧
      (∀ hash other : Hash160, payToKeyHash hash = payToKeyHash other ↔ hash = other) ∧
      (∀ hash other : Hash160, payToScriptHash hash = payToScriptHash other ↔ hash = other) ∧
      ∀ hash, classify (payToKeyHash hash) = ⟨.pubKeyHash, [hash], 1⟩ := by
  refine ⟨fun script => ?_, fun hash other => ?_, fun hash other => ?_, classify_of_payToKeyHash⟩
  · constructor
    case within_bounds => exact classify?_eq_some script
    case pubKeyHash_iff =>
      intro hash
      rw [classify_eq_iff]
      constructor
      · rintro ⟨⟩
        assumption
      · exact .pubKeyHash hash
    case scriptHash_iff =>
      intro hash
      rw [classify_eq_iff]
      constructor
      · rintro ⟨⟩
        assumption
      · exact .scriptHash hash
    case nullData_iff =>
      rw [classify_eq_iff]
      constructor
      · rintro ⟨⟩
        assumption
      · exact .nullData
    case nonStandard_iff =>
      rw [classify_eq_iff]
      constructor
      · rintro ⟨⟩
        exact ⟨‹_›, ‹_›, ‹_›⟩
      · rintro ⟨no_key, no_script, unmarked⟩
        exact .nonStandard no_key no_script unmarked
    case one_of_these =>
      have belongs := belongs_classify script
      generalize classify script = addresses at belongs
      cases belongs with
      | pubKeyHash hash => exact .inl ⟨hash, rfl⟩
      | scriptHash hash => exact .inr (.inl ⟨hash, rfl⟩)
      | nullData => exact .inr (.inr (.inl rfl))
      | nonStandard => exact .inr (.inr (.inr rfl))
    case length_hashes => exact (belongs_classify script).length_hashes
    case rebuilds => exact (belongs_classify script).rebuild
  · exact ⟨payToKeyHash_injective, congrArg payToKeyHash⟩
  · exact ⟨payToScriptHash_injective, congrArg payToScriptHash⟩

end BoardDiagnostics.Ledger
