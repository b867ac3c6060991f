import BoardDiagnostics.Hash.Hmac
import BoardDiagnostics.Curve.Point

/-!
# Signatures

ECDSA over secp256k1 for digests of thirty-two octets.  The secret number of a signature is
derived from the key and the digest, so signing is a function; of the two values that a
signature may take for `s` the lower one is made, and only that one verifies.
-/

set_option autoImplicit false

namespace BoardDiagnostics.Secp256k1

/-- A number that stands for a secret key or a part of a signature. -/
def isScalar (k : Nat) : Bool := 0 < k && k < n

/-- The secret key that an octet string encodes; up to eight leading zeros may be missing. -/
def secretOfOctets? (bytes : Octets) : Option Nat :=
  if 24 ≤ bytes.length ∧ bytes.length ≤ 32 then
    let d := Octets.toNat bytes
    if isScalar d then some d else none
  else none

/-- The public key of a secret key. -/
def publicOf (secret : Nat) : Affine := (multipleOfGenerator secret).getD generator

/-- A signature. -/
structure Signature where
  r : Nat
  s : Nat
  deriving DecidableEq, Repr

namespace Signature

/-- A number as the content of a DER integer: no leading zeros but the one that keeps it from
being read as negative. -/
def integerContent (k : Nat) : Octets :=
  let trimmed := (Octets.bigEndian 32 k).dropWhile (· = 0)
  match trimmed with
  | [] => [0]
  | b :: _ => if 0x80 ≤ b then 0 :: trimmed else trimmed

/-- A DER integer. -/
def integer (k : Nat) : Octets :=
  let content := integerContent k
  0x02 :: UInt8.ofNat content.length :: content

/-- The DER encoding of a signature. -/
def toOctets (signature : Signature) : Octets :=
  let body := integer signature.r ++ integer signature.s
  0x30 :: UInt8.ofNat body.length :: body

/-- The signature in sixty-four octets, `r` before `s`. -/
def toFixedOctets (signature : Signature) : Octets :=
  Octets.bigEndian 32 signature.r ++ Octets.bigEndian 32 signature.s

/-- The content of a DER integer is in its only form. -/
def isIntegerContent (content : Octets) : Bool :=
  match content with
  | [] => false
  | [b] => b < 0x80
  | b :: next :: _ => b < 0x80 && (b ≠ 0 || 0x80 ≤ next)

/-- Read a DER integer in front of an octet string. -/
def takeInteger? (bytes : Octets) : Option (Nat × Octets) :=
  match bytes with
  | tag :: length :: rest =>
    let content := rest.take length.toNat
    if tag = 0x02 ∧ length < 0x80 ∧ content.length = length.toNat ∧ isIntegerContent content then
      some (Octets.toNat content, rest.drop length.toNat)
    else none
  | _ => none

/-- The signature that a DER encoding stands for. -/
def ofOctets? (bytes : Octets) : Option Signature :=
  match bytes with
  | tag :: length :: body =>
    if tag = 0x30 ∧ length < 0x80 ∧ body.length = length.toNat then
      match takeInteger? body with
      | none => none
      | some (r, rest) =>
        match takeInteger? rest with
        | some (s, []) => if isScalar r && isScalar s then some ⟨r, s⟩ else none
        | _ => none
    else none
  | _ => none

/-- The lower one of the two values of `s`. -/
def isLow (signature : Signature) : Bool := signature.s ≤ n / 2

/-- A signature of a digest is valid under a public key. -/
def verifies (signature : Signature) (key : Affine) (digest : Octets) : Bool :=
  let z := Octets.toNat digest % n
  let w := inverse n signature.s
  match combine (z * w % n) (signature.r * w % n) key with
  | none => false
  | some point => signature.isLow && point.x % n = signature.r

end Signature

/-- The state of the generator of secret numbers. -/
structure NonceState where
  key : Octets
  value : Octets

namespace NonceState

/-- Mix a text into the generator. -/
def mix (s : NonceState) (separator : UInt8) (text : Octets) : NonceState :=
  let key := Hmac.tag s.key (s.value ++ separator :: text)
  ⟨key, Hmac.tag key s.value⟩

/-- The generator for a secret key and a digest. -/
def start (secret z : Nat) : NonceState :=
  let text := Octets.bigEndian 32 secret ++ Octets.bigEndian 32 z
  ((⟨List.replicate 32 0, List.replicate 32 1⟩ : NonceState).mix 0x00 text).mix 0x01 text

/-- The first number of the generator that can be used, out of so many. -/
def next? : Nat → NonceState → Option Nat
  | 0, _ => none
  | tries + 1, s =>
    let value := Hmac.tag s.key s.value
    let k := Octets.toNat value
    if isScalar k then some k
    else next? tries ((⟨s.key, value⟩ : NonceState).mix 0x00 [])

end NonceState

/-- Sign a digest. -/
def sign (secret : Nat) (digest : Octets) : Option Signature :=
  let z := Octets.toNat digest % n
  match (NonceState.start secret z).next? 64 with
  | none => none
  | some k =>
    match multipleOfGenerator k with
    | none => none
    | some point =>
      let r := point.x % n
      let s := inverse n k * ((z + r * secret) % n) % n
      if r = 0 ∨ s = 0 then none
      else some ⟨r, if s ≤ n / 2 then s else n - s⟩

end BoardDiagnostics.Secp256k1
