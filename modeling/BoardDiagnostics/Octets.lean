/-!
# Octet strings

Strings of octets, and numbers written as octets of a fixed count, with the least or with the
most significant octet in front.
-/

set_option autoImplicit false

namespace BoardDiagnostics

/-- A string of octets. -/
abbrev Octets := List UInt8

namespace Octets

/-- A number in so many octets, least significant first; what does not fit is dropped. -/
def littleEndian : Nat → Nat → Octets
  | 0, _ => []
  | count + 1, n => UInt8.ofNat n :: littleEndian count (n / 256)

/-- A number in so many octets, most significant first; what does not fit is dropped. -/
def bigEndian (count n : Nat) : Octets := (littleEndian count n).reverse

/-- The number that octets stand for, most significant first. -/
def toNat (bytes : Octets) : Nat :=
  bytes.foldl (fun n b => n * 256 + b.toNat) 0

/-- The first octets of a string in groups of so many, at most `count` groups. -/
def groups (size : Nat) : Nat → Octets → List Octets
  | 0, _ => []
  | count + 1, bytes => bytes.take size :: groups size count (bytes.drop size)

/-- A number is written with as many octets as it is to have. -/
@[simp] theorem length_littleEndian (count n : Nat) : (littleEndian count n).length = count := by
  induction count generalizing n with
  | zero => rfl
  | succ count ih => simp [littleEndian, ih]

/-- With the highest octet in front, a number has as many octets as well. -/
@[simp] theorem length_bigEndian (count n : Nat) : (bigEndian count n).length = count := by
  simp [bigEndian]

end Octets

end BoardDiagnostics
