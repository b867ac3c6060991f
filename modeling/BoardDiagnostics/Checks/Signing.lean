import BoardDiagnostics.Checks.Run
import BoardDiagnostics.Curve.Signature
import BoardDiagnostics.Duration

/-!
# The signing check

A message is signed with a fresh key; the signature must be valid for the message and for no
other one.
-/

set_option autoImplicit false

namespace BoardDiagnostics.SigningCheck

/-- The message that is signed. -/
def message : Octets := "bring-up harness signing round trip".toUTF8.toList

/-- The message with one bit of its first octet changed. -/
def tampered : Octets :=
  match message with
  | [] => []
  | b :: rest => (b ^^^ 0x01) :: rest

/-- Check signing with a secret key; the check took a measured time. -/
def run (secret : Nat) (elapsed : Duration) : CheckRun :=
  match Secp256k1.sign secret (Sha256.digest message) with
  | none =>
    let reason := "signature operation failed: signature::Error \x7b source: None \x7d"
    ⟨[], .error (.text reason)⟩
  | some signature =>
    let key := Secp256k1.publicOf secret
    if !signature.verifies key (Sha256.digest message) then
      .ended [] (.error ((Reasons.of "signature error").within
        "signature over the original message did not verify"))
    else if signature.verifies key (Sha256.digest tampered) then
      .failed [] "signature verified over a tampered message"
    else
      let line := Line.info ("ECDSA secp256k1 sign/verify ok, signature " ++
        Text.hex signature.toFixedOctets ++ " (" ++ elapsed.text ++ ")")
      .ended [line] (.ok ())

end BoardDiagnostics.SigningCheck
