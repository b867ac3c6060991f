import BoardDiagnostics.Octets
import BoardDiagnostics.Curve.Secp256k1

/-!
# Public keys as octets

The standard encodings of a point: a tag and both coordinates, or a tag that tells whether `y`
is odd and `x` alone.  The compact tag stands for an even `y`.
-/

set_option autoImplicit false

namespace BoardDiagnostics.Secp256k1.Affine

/-- The compressed encoding of a point. -/
def compressed (point : Affine) : Octets :=
  (if point.y % 2 = 1 then 0x03 else 0x02) :: Octets.bigEndian 32 point.x

/-- The point that an octet string encodes. -/
def ofOctets? (bytes : Octets) : Option Affine :=
  match bytes with
  | [] => none
  | tag :: rest =>
    if tag = 0x04 then
      if rest.length = 64 then
        let point : Affine := ⟨Octets.toNat (rest.take 32), Octets.toNat (rest.drop 32)⟩
        if point.isOnCurve then some point else none
      else none
    else if rest.length = 32 then
      if tag = 0x02 ∨ tag = 0x05 then ofX? (Octets.toNat rest) false
      else if tag = 0x03 then ofX? (Octets.toNat rest) true
      else none
    else none

end BoardDiagnostics.Secp256k1.Affine
