import BoardDiagnostics.Ledger.Spending
import BoardDiagnostics.Proofs.Ledger.Pushes
import BoardDiagnostics.Proofs.Ledger.Templates

/-!
# Access within bounds

Classifying a script, reading pushes and checking a spend, written with every access to an octet
string or a list by position.  An access that leaves the string or the list breaks off the whole
program, which then has no result.  The main statement, `verifyInput?_eq_some`, is that this never
happens: on all inputs the program has a result, and it is that of `verifyInput`.
-/

set_option autoImplicit false

namespace BoardDiagnostics.Ledger

/-- The octets of a string from one position up to another, if both are in order and the string
reaches that far. -/
def slice? (bytes : Octets) (start stop : Nat) : Option Octets :=
  if start ≤ stop ∧ stop ≤ bytes.length then some ((bytes.drop start).take (stop - start)) else none

/-- Twenty octets of a script, from a position, copied to a hash. -/
def hashAt? (script : Octets) (offset : Nat) : Option Hash160 :=
  match slice? script offset (offset + 20) with
  | none => none
  | some octets => if h : octets.length = 20 then some ⟨octets.toArray, by simpa using h⟩ else none

/-- A script begins with a head, ends with a tail and has just so many octets. -/
def IsFramed (head tail : Octets) (count : Nat) (script : Octets) : Prop :=
  head <+: script ∧ tail <:+ script ∧ script.length = count

instance (head tail : Octets) (count : Nat) (script : Octets) :
    Decidable (IsFramed head tail count script) :=
  inferInstanceAs (Decidable (_ ∧ _ ∧ _))

/-- Classify a script by its ends and its length, and copy its hash by position. -/
def classify? (script : Octets) : Option Addresses :=
  if IsFramed keyHashHead keyHashTail 25 script then
    (hashAt? script 3).map fun hash => ⟨.pubKeyHash, [hash], 1⟩
  else if IsFramed scriptHashHead scriptHashTail 23 script then
    (hashAt? script 2).map fun hash => ⟨.scriptHash, [hash], 1⟩
  else if script.head? = some Op.ret then some ⟨.nullData, [], 0⟩
  else some ⟨.nonStandard, [], 0⟩

/-- A part within the bounds has the length asked for. -/
theorem length_of_slice? {bytes part : Octets} {start stop : Nat}
    (found : slice? bytes start stop = some part) : part.length = stop - start := by
  unfold slice? at found
  split at found
  case isTrue inside =>
    obtain rfl := Option.some.inj found
    rw [List.length_take, List.length_drop]
    omega
  case isFalse => cases found

/-- Read pushes, with the rest of the script taken by position. -/
def pushes? (script : Octets) : Option (Except Reasons (List Octets)) :=
  match script with
  | [] => some (.ok [])
  | op :: tail =>
    match _counted : takeCount op tail with
    | .error reasons => some (.error reasons)
    | .ok (count, rest) =>
      if count ≤ rest.length then
        match slice? rest 0 count, _left : slice? rest count rest.length with
        | some content, some left => (pushes? left).map (Except.map (content :: ·))
        | _, _ => none
      else some (.error (.of ("push of " ++ toString count ++ " bytes overruns script")))
termination_by script.length
decreasing_by
  have := length_takeCount _counted
  have := length_of_slice? _left
  simp only [List.length_cons]
  omega

/-- Check that a signature script spends an output, with the hash taken by position. -/
def verifyInput? (scheme : Scheme) (signatureScript : Octets) (spend : Spend) : Option CheckResult :=
  match classify? spend.previousScript with
  | none => none
  | some addresses =>
    if addresses.scriptClass ≠ .pubKeyHash then
      some (.error (.of ("cannot spend " ++ addresses.scriptClass.name ++ " output")))
    else
      match pushes? signatureScript with
      | none => none
      | some (.error reasons) => some (.error reasons)
      | some (.ok [marked, key]) =>
        addresses.hashes[0]?.map fun hash => verifyPushes scheme spend hash marked key
      | some (.ok contents) =>
        some (.error (.of
          ("signature script has " ++ toString contents.length ++ " pushes, want 2")))

/-! ## Classifying -/

/-- A script with a frame's head, tail and length is a hash in that frame. -/
theorem exists_hash_iff {head tail script : Octets} {count : Nat}
    (total : count = head.length + 20 + tail.length) :
    IsFramed head tail count script ↔ ∃ hash : Hash160, script = head ++ hash.toList ++ tail := by
  constructor
  · rintro ⟨⟨behind, rfl⟩, ends, length⟩
    rw [List.length_append] at length
    -- Both the tail and what is behind the head end the script; the tail is the shorter one.
    have ends_behind : tail <:+ behind :=
      List.suffix_of_suffix_length_le ends (List.suffix_append head behind) (by omega)
    obtain ⟨middle, rfl⟩ := ends_behind
    rw [List.length_append] at length
    refine ⟨⟨middle.toArray, by rw [List.size_toArray]; omega⟩, ?_⟩
    rw [List.append_assoc]
    rfl
  · rintro ⟨hash, rfl⟩
    refine ⟨?_, List.suffix_append _ _, ?_⟩
    · rw [List.append_assoc]
      exact List.prefix_append _ _
    · simp only [List.length_append, Vector.length_toList]
      exact total.symm

/-- The hash between head and tail is found at the offset of the head. -/
theorem hashAt?_append (head tail : Octets) (hash : Hash160) :
    hashAt? (head ++ hash.toList ++ tail) head.length = some hash := by
  have inside : slice? (head ++ hash.toList ++ tail) head.length (head.length + 20) =
      some hash.toList := by
    unfold slice?
    rw [if_pos (by simp), List.append_assoc, List.drop_left, Nat.add_sub_cancel_left]
    rw [List.take_left' hash.length_toList]
  unfold hashAt?
  simp only [inside, Vector.length_toList, dif_pos]
  rfl

/-- Classifying stays within the bounds of every script, and gives its class. -/
theorem classify?_eq_some (script : Octets) : classify? script = some (classify script) := by
  have keyHash : IsFramed keyHashHead keyHashTail 25 script ↔
      ∃ hash : Hash160, script = payToKeyHash hash := exists_hash_iff rfl
  have scriptHash : IsFramed scriptHashHead scriptHashTail 23 script ↔
      ∃ hash : Hash160, script = payToScriptHash hash := exists_hash_iff rfl
  unfold classify?
  split
  case isTrue framed =>
    obtain ⟨hash, rfl⟩ := keyHash.mp framed
    have copied : hashAt? (payToKeyHash hash) 3 = some hash := hashAt?_append _ _ hash
    rw [copied, classify_of_payToKeyHash]
    rfl
  case isFalse unframed =>
    have no_key : hashBetween? keyHashHead keyHashTail script = none := by
      rw [hashBetween?_eq_none_iff]
      intro hash same
      exact unframed (keyHash.mpr ⟨hash, same⟩)
    split
    case isTrue framed =>
      obtain ⟨hash, rfl⟩ := scriptHash.mp framed
      have found : hashBetween? scriptHashHead scriptHashTail (payToScriptHash hash) = some hash :=
        hashBetween?_eq_some_iff.mpr rfl
      have copied : hashAt? (payToScriptHash hash) 2 = some hash := hashAt?_append _ _ hash
      simp only [copied, classify, no_key, found, Option.map_some]
    case isFalse unframed' =>
      have no_script : hashBetween? scriptHashHead scriptHashTail script = none := by
        rw [hashBetween?_eq_none_iff]
        intro hash same
        exact unframed' (scriptHash.mpr ⟨hash, same⟩)
      simp only [classify, no_key, no_script]
      split <;> rfl

/-! ## Reading pushes -/

/-- A part in front that is there is within the bounds. -/
theorem slice?_front {bytes : Octets} {count : Nat} (enough : count ≤ bytes.length) :
    slice? bytes 0 count = some (bytes.take count) := by
  unfold slice?
  rw [if_pos ⟨Nat.zero_le _, enough⟩, List.drop_zero, Nat.sub_zero]

/-- A part at the back that is there is within the bounds. -/
theorem slice?_back {bytes : Octets} {count : Nat} (enough : count ≤ bytes.length) :
    slice? bytes count bytes.length = some (bytes.drop count) := by
  unfold slice?
  rw [if_pos ⟨enough, Nat.le_refl _⟩, ← List.length_drop, List.take_length]

/-- A refused opcode ends the reading of pushes. -/
theorem pushes?_of_refused {op : UInt8} {tail : Octets} {reasons : Reasons}
    (refused : takeCount op tail = .error reasons) :
    pushes? (op :: tail) = some (.error reasons) := by
  rw [pushes?]
  split
  case h_1 reasons' refused' =>
    rw [refused] at refused'
    cases refused'
    rfl
  case h_2 counted => rw [refused] at counted; cases counted

/-- A push is read within the bounds, or refused because it overruns the script. -/
theorem pushes?_of_counted {op : UInt8} {tail : Octets} {count : Nat} {rest : Octets}
    (counted : takeCount op tail = .ok (count, rest)) :
    pushes? (op :: tail) =
      if count ≤ rest.length then
        (pushes? (rest.drop count)).map (Except.map (rest.take count :: ·))
      else some (.error (.of ("push of " ++ toString count ++ " bytes overruns script"))) := by
  rw [pushes?]
  split
  case h_1 refused => rw [counted] at refused; cases refused
  case h_2 counted' =>
    rw [counted] at counted'
    cases counted'
    split
    case isTrue enough =>
      split
      case h_1 content left front back =>
        rw [slice?_front enough] at front
        rw [slice?_back enough] at back
        cases front
        cases back
        rfl
      case h_2 outside => exact (outside _ _ (slice?_front enough) (slice?_back enough)).elim
    case isFalse => rfl

/-- Reading pushes stays within the bounds of every script. -/
theorem pushes?_eq_some (script : Octets) : pushes? script = some (pushes script) := by
  match script with
  | [] => rw [pushes?, pushes]
  | op :: tail =>
    cases counted : takeCount op tail with
    | error reasons => rw [pushes?_of_refused counted, pushes_of_refused counted]
    | ok counts =>
      obtain ⟨count, rest⟩ := counts
      rw [pushes?_of_counted counted, pushes_of_counted counted]
      split
      · rw [pushes?_eq_some (rest.drop count)]
        rfl
      · rfl
termination_by script.length
decreasing_by
  have := length_takeCount counted
  simp only [List.length_drop, List.length_cons]
  omega

/-! ## Checking a spend -/

section

variable (scheme : Scheme) (signatureScript : Octets) {spend : Spend}

/-- A spend of a pay-to-key-hash output is verified by what its signature script pushes. -/
theorem verifyInput_of_payToKeyHash {hash : Hash160}
    (pays : spend.previousScript = payToKeyHash hash) :
    verifyInput scheme signatureScript spend =
      match pushes signatureScript with
      | .error reasons => .error reasons
      | .ok [marked, key] => verifyPushes scheme spend hash marked key
      | .ok contents =>
        .error (.of ("signature script has " ++ toString contents.length ++ " pushes, want 2")) := by
  have classified : classify spend.previousScript = ⟨.pubKeyHash, [hash], 1⟩ := by
    rw [pays]
    exact classify_of_payToKeyHash hash
  unfold verifyInput
  generalize classify spend.previousScript = addresses at classified
  subst classified
  rfl

/-- A spend of any other output is refused, by the name of its class. -/
theorem verifyInput_of_foreign (foreign : (classify spend.previousScript).scriptClass ≠ .pubKeyHash) :
    verifyInput scheme signatureScript spend =
      .error (.of ("cannot spend " ++ (classify spend.previousScript).scriptClass.name ++
        " output")) := by
  simp only [verifyInput]
  split
  case h_1 paid _ => exact (foreign paid).elim
  case h_2 => rfl

/-- No access of the check leaves its string or list, whatever the scripts are. -/
theorem verifyInput?_eq_some (spend : Spend) :
    verifyInput? scheme signatureScript spend = some (verifyInput scheme signatureScript spend) := by
  unfold verifyInput?
  rw [classify?_eq_some, pushes?_eq_some]
  by_cases paid : (classify spend.previousScript).scriptClass = .pubKeyHash
  · obtain ⟨hash, template⟩ := classify_pubKeyHash_iff.mp paid
    rw [verifyInput_of_payToKeyHash scheme signatureScript template, template,
      classify_of_payToKeyHash]
    simp only [ne_eq, not_true_eq_false, if_false]
    cases pushes signatureScript with
    | error reasons => rfl
    | ok contents =>
      match contents with
      | [] => rfl
      | [_] => rfl
      | [_, _] => rfl
      | _ :: _ :: _ :: _ => rfl
  · rw [verifyInput_of_foreign scheme signatureScript paid]
    simp only [ne_eq, paid, not_false_eq_true, if_true]

end

end BoardDiagnostics.Ledger
