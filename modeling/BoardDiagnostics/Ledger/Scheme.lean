import BoardDiagnostics.Curve.Signature

/-!
# Signature schemes

What the ledger needs of a signature scheme: keys and signatures, their encodings, signing a
digest and verifying a signature.  The rules of spending hold over any scheme; the one in use is
ECDSA over secp256k1 with compressed public keys and signatures in DER.
-/

set_option autoImplicit false

namespace BoardDiagnostics.Ledger

/-- A signature scheme. -/
structure Scheme where
  Secret : Type
  Public : Type
  Signature : Type
  /-- The public key of a secret key. -/
  publicOf : Secret → Public
  /-- The encoding of a public key. -/
  keyOctets : Public → Octets
  /-- The public key that an encoding stands for. -/
  public? : Octets → Option Public
  /-- The encoding of a signature. -/
  signatureOctets : Signature → Octets
  /-- The signature that an encoding stands for. -/
  signature? : Octets → Option Signature
  /-- Sign a digest. -/
  sign : Secret → Octets → Option Signature
  /-- A signature of a digest is valid under a public key. -/
  verifies : Public → Octets → Signature → Bool

/-- The encoding of the public key of a secret key. -/
def Scheme.publicOctets (scheme : Scheme) (secret : scheme.Secret) : Octets :=
  scheme.keyOctets (scheme.publicOf secret)

/-- ECDSA over secp256k1. -/
def secp256k1 : Scheme where
  Secret := Nat
  Public := Secp256k1.Affine
  Signature := Secp256k1.Signature
  publicOf := Secp256k1.publicOf
  keyOctets := Secp256k1.Affine.compressed
  public? := Secp256k1.Affine.ofOctets?
  signatureOctets := Secp256k1.Signature.toOctets
  signature? := Secp256k1.Signature.ofOctets?
  sign := Secp256k1.sign
  verifies key digest signature := signature.verifies key digest

instance : DecidableEq secp256k1.Public := inferInstanceAs (DecidableEq Secp256k1.Affine)

instance : DecidableEq secp256k1.Signature := inferInstanceAs (DecidableEq Secp256k1.Signature)

end BoardDiagnostics.Ledger
