import BoardDiagnostics.Octets

/-!
# Hexadecimal text

Octet strings as pairs of lower-case digits, most significant digit first, and single numbers
under the mark `0x`.
-/

set_option autoImplicit false

namespace BoardDiagnostics.Text

/-- The two digits of an octet. -/
def hexPair (b : UInt8) : List Char :=
  [Nat.digitChar (b.toNat / 16), Nat.digitChar (b.toNat % 16)]

/-- An octet string in lower-case digits, two to the octet. -/
def hex (bytes : Octets) : String :=
  String.ofList (bytes.flatMap hexPair)

/-- A number under the mark `0x`, without leading zeros. -/
def hexNumber (n : Nat) : String :=
  "0x" ++ String.ofList (Nat.toDigits 16 n)

/-- An octet under the mark `0x`, always with two digits. -/
def hexOctet (b : UInt8) : String :=
  "0x" ++ String.ofList (hexPair b)

/-- The value of a hexadecimal digit of either case. -/
def hexDigit? (c : Char) : Option Nat :=
  if '0' ≤ c ∧ c ≤ '9' then some (c.toNat - 48)
  else if 'a' ≤ c ∧ c ≤ 'f' then some (c.toNat - 87)
  else if 'A' ≤ c ∧ c ≤ 'F' then some (c.toNat - 55)
  else none

/-- The octets that a run of digit pairs stands for; an odd or foreign digit has none. -/
def octetsOfHexChars? : List Char → Option Octets
  | [] => some []
  | [_] => none
  | high :: low :: rest => do
    let h ← hexDigit? high
    let l ← hexDigit? low
    let bytes ← octetsOfHexChars? rest
    some (UInt8.ofNat (16 * h + l) :: bytes)

/-- The octets that a hexadecimal text stands for. -/
def octetsOfHex? (s : String) : Option Octets :=
  octetsOfHexChars? s.toList

end BoardDiagnostics.Text
