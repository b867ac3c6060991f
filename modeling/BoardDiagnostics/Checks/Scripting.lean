import BoardDiagnostics.Checks.Run
import BoardDiagnostics.Ledger.Spending

/-!
# The scripting check

Three checks of ledger scripting: making a script, classifying scripts, and signing a
transaction.
-/

set_option autoImplicit false

namespace BoardDiagnostics.ScriptingCheck

open Ledger

/-- The octets of a text. -/
def octetsOf (text : String) : Octets := text.toUTF8.toList

/-- The secret key of the script that is shown. -/
def shownSecret : Nat := Octets.toNat (List.replicate 32 0x11)

/-- Make a script that pays to the hash of a key, and show it. -/
def checkMaking : List Line × CheckResult :=
  let hash := hash160 (secp256k1.publicOctets shownSecret)
  let script := payToKeyHash hash
  if script.length = 25 then
    ([.info ("Script Hex: " ++ Text.hex script),
      .info ("Script Disassembly: OP_DUP OP_HASH160 " ++ Text.hex hash.toList ++
        " OP_EQUALVERIFY OP_CHECKSIG")], .ok ())
  else ([], .error (.of ("script is " ++ toString script.length ++ " bytes")))

/-- The scripts that are classified, with the class and the number of signatures of each. -/
def cases : List (Octets × ScriptClass × Nat) :=
  let hash := hash160 (octetsOf "bring-up harness redeem script")
  [(payToKeyHash hash, .pubKeyHash, 1), (payToScriptHash hash, .scriptHash, 1),
    ([Op.ret, 0x04, 0xde, 0xad, 0xbe, 0xef], .nullData, 0)]

/-- What was read off a script, as a record. -/
def record (addresses : Addresses) : String :=
  let hashes := addresses.hashes.map fun hash =>
    "[" ++ ", ".intercalate (hash.toList.map fun b => toString b.toNat) ++ "]"
  "ScriptAddrs \x7b class: " ++ addresses.scriptClass.name ++ ", hashes: [" ++
    ", ".intercalate hashes ++ "], required_sigs: " ++ toString addresses.requiredSignatures ++
    " \x7d"

/-- Classify scripts, and show what was read off them. -/
def checkClassifying : List (Octets × ScriptClass × Nat) → List Line × CheckResult
  | [] => ([], .ok ())
  | (script, scriptClass, required) :: rest =>
    let addresses := classify script
    if addresses.scriptClass = scriptClass ∧ addresses.requiredSignatures = required then
      let (lines, result) := checkClassifying rest
      (.info ("Script Class: " ++ addresses.scriptClass.name ++ " Addresses: " ++
        Text.quotedList (addresses.hashes.map fun hash => Text.hex hash.toList) ++
        " Required Signatures: " ++ toString addresses.requiredSignatures) :: lines, result)
    else
      ([], .error (.of ("script " ++ Text.hex script ++ " classified as " ++ record addresses)))

/-- The transaction that is signed with a secret key. -/
def spendFor (secret : Nat) : Spend where
  previous :=
    ⟨⟨(doubleSha256 (octetsOf "bring-up harness funding transaction")).toArray,
      by simp [doubleSha256]⟩, 0⟩
  previousScript := payToKeyHash (hash160 (secp256k1.publicOctets secret))
  output := ⟨100000, payToKeyHash (hash160 (octetsOf "recipient"))⟩

/-- The same transaction with another value. -/
def altered (spend : Spend) : Spend :=
  { spend with output := { spend.output with value := spend.output.value + 1 } }

/-- Sign a transaction; the signature must not be valid for another one. -/
def checkSigning (secret : Nat) : List Line × CheckResult :=
  let spend := spendFor secret
  match signInput secp256k1 secret spend with
  | .error reasons => ([], .error reasons)
  | .ok script =>
    match verifyInput secp256k1 script spend with
    | .error reasons => ([], .error reasons)
    | .ok () =>
      match verifyInput secp256k1 script (altered spend) with
      | .ok () => ([], .error (.of "signature verified against an altered output"))
      | .error _ => ([.info "Transaction successfully signed"], .ok ())

/-- One part after another, each in its context, up to the first failure. -/
def inOrder : List (String × List Line × CheckResult) → List Line × CheckResult
  | [] => ([], .ok ())
  | (context, lines, result) :: rest =>
    match inContext context result with
    | .error reasons => (lines, .error reasons)
    | .ok () =>
      let (more, result) := inOrder rest
      (lines ++ more, result)

/-- Check ledger scripting, with a secret key for the transaction. -/
def run (secret : Nat) : CheckRun :=
  let (lines, result) := inOrder [
    ("pay to address script", checkMaking),
    ("extract pk script addrs", checkClassifying cases),
    ("sign tx output", checkSigning secret)]
  .ended lines result

end BoardDiagnostics.ScriptingCheck
