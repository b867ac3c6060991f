import BoardDiagnostics.Checks.Result
import BoardDiagnostics.Ledger.Script
import BoardDiagnostics.Text.Hex

/-!
# Pushes

A signature script is a row of pushes: a count of at most 75 and as many octets, or the opcode
for long pushes, a count in one octet, and as many octets.
-/

set_option autoImplicit false

namespace BoardDiagnostics.Ledger

/-- The push of an octet string.  The count has one octet; of a longer string's length it keeps
the low eight bits. -/
def push (data : Octets) : Octets :=
  if data.length < Op.pushLong.toNat then UInt8.ofNat data.length :: data
  else Op.pushLong :: UInt8.ofNat data.length :: data

/-- The count that a push begins with, and what stands behind the count. -/
def takeCount (op : UInt8) (tail : Octets) : Except Reasons (Nat × Octets) :=
  if 1 ≤ op ∧ op < Op.pushLong then .ok (op.toNat, tail)
  else if op = Op.pushLong then
    match tail with
    | [] => .error (.of "truncated OP_PUSHDATA1")
    | count :: tail => .ok (count.toNat, tail)
  else .error (.of ("unexpected opcode " ++ Text.hexOctet op ++ " in signature script"))

/-- What stands behind a count is no longer than what stood before it. -/
theorem length_takeCount {op : UInt8} {tail : Octets} {count : Nat} {rest : Octets}
    (h : takeCount op tail = .ok (count, rest)) : rest.length ≤ tail.length := by
  unfold takeCount at h
  split at h
  · cases h; exact Nat.le_refl _
  · split at h
    · cases tail with
      | nil => cases h
      | cons c t => cases h; simp
    · cases h

/-- The contents of the pushes that make up a script. -/
def pushes (script : Octets) : Except Reasons (List Octets) :=
  match script with
  | [] => .ok []
  | op :: tail =>
    match _counted : takeCount op tail with
    | .error reasons => .error reasons
    | .ok (count, rest) =>
      let content := rest.take count
      if content.length = count then
        match pushes (rest.drop count) with
        | .error reasons => .error reasons
        | .ok more => .ok (content :: more)
      else .error (.of ("push of " ++ toString count ++ " bytes overruns script"))
termination_by script.length
decreasing_by
  have := length_takeCount _counted
  simp only [List.length_drop, List.length_cons]
  omega

end BoardDiagnostics.Ledger
