import BoardDiagnostics.Ledger.Push
import BoardDiagnostics.Ledger.Scheme
import BoardDiagnostics.Ledger.Transaction

/-!
# Spending an output

A signature script for an output that is paid to the hash of a public key: the push of a
signature with its mark, and the push of the key.  Such a script spends the output if the key
has the hash and the signature of the transaction is valid under the key.
-/

set_option autoImplicit false

namespace BoardDiagnostics.Ledger

variable (scheme : Scheme)

/-- The reason that every failure inside a scheme gives. -/
def schemeFailure : Reasons := .of "signature error"

/-- The result of a part of a scheme, which fails in a context. -/
def ofScheme {α : Type} (context : String) (result : Option α) : Except Reasons α :=
  match result with
  | some a => .ok a
  | none => .error (schemeFailure.within context)

/-- The signature script that spends an output with a secret key. -/
def signInput (secret : scheme.Secret) (spend : Spend) : Except Reasons Octets :=
  match ofScheme "signing sighash" (scheme.sign secret spend.digest) with
  | .error reasons => .error reasons
  | .ok signature =>
    .ok (push (scheme.signatureOctets signature ++ [Spend.wholeTransaction]) ++
      push (scheme.publicOctets secret))

/-- Check the signature and the key that a signature script pushes. -/
def verifyPushes (spend : Spend) (hash : Hash160) (marked key : Octets) : CheckResult :=
  if hash160 key ≠ hash then .error (.of "public key does not match output hash")
  else
    match marked.getLast? with
    | none => .error (.of "empty signature push")
    | some mark =>
      if mark ≠ Spend.wholeTransaction then
        .error (.of ("unsupported sighash " ++ Text.hexOctet mark))
      else
        match ofScheme "parsing public key" (scheme.public? key) with
        | .error reasons => .error reasons
        | .ok verifier =>
          match ofScheme "parsing DER signature" (scheme.signature? marked.dropLast) with
          | .error reasons => .error reasons
          | .ok signature =>
            if scheme.verifies verifier spend.digest signature then .ok ()
            else .error (schemeFailure.within "signature does not verify")

/-- Check that a signature script spends an output. -/
def verifyInput (signatureScript : Octets) (spend : Spend) : CheckResult :=
  let addresses := classify spend.previousScript
  match addresses.scriptClass, addresses.hashes with
  | .pubKeyHash, hash :: _ =>
    match pushes signatureScript with
    | .error reasons => .error reasons
    | .ok [marked, key] => verifyPushes scheme spend hash marked key
    | .ok contents =>
      .error (.of ("signature script has " ++ toString contents.length ++ " pushes, want 2"))
  | _, _ => .error (.of ("cannot spend " ++ addresses.scriptClass.name ++ " output"))

end BoardDiagnostics.Ledger
