import BoardDiagnostics.Octets
import BoardDiagnostics.Hash.Sha256
import BoardDiagnostics.Hash.Ripemd160

/-!
# Output scripts

The scripts that say who may spend an output.  A script belongs to a class if it is one of the
templates of that class, octet for octet; the hash in a template can be read off again.
-/

set_option autoImplicit false

namespace BoardDiagnostics.Ledger

/-- The hash that stands for a public key or for a script. -/
abbrev Hash160 := Vector UInt8 20

/-- The hash of an octet string: RIPEMD-160 over SHA-256. -/
def hash160 (data : Octets) : Hash160 :=
  ⟨(Ripemd160.digest (Sha256.digest data)).toArray, by simp⟩

/-- SHA-256 twice over. -/
def doubleSha256 (data : Octets) : Octets := Sha256.digest (Sha256.digest data)

namespace Op

/-- Marks an output that carries data and can never be spent. -/
def ret : UInt8 := 0x6a

/-- Duplicates the top of the stack. -/
def dup : UInt8 := 0x76

/-- Compares two items. -/
def equal : UInt8 := 0x87

/-- Compares two items and fails if they differ. -/
def equalVerify : UInt8 := 0x88

/-- Hashes the top of the stack. -/
def hash : UInt8 := 0xa9

/-- Checks a signature. -/
def checkSig : UInt8 := 0xac

/-- Pushes the next twenty octets. -/
def push20 : UInt8 := 0x14

/-- Pushes as many octets as the next octet says. -/
def pushLong : UInt8 := 0x4c

end Op

/-- The octets of a script that pays to the hash of a public key, in front of the hash. -/
def keyHashHead : Octets := [Op.dup, Op.hash, Op.push20]

/-- The octets behind the hash. -/
def keyHashTail : Octets := [Op.equalVerify, Op.checkSig]

/-- The octets of a script that pays to the hash of a script, in front of the hash. -/
def scriptHashHead : Octets := [Op.hash, Op.push20]

/-- The octet behind the hash. -/
def scriptHashTail : Octets := [Op.equal]

/-- The script that pays to the hash of a public key. -/
def payToKeyHash (hash : Hash160) : Octets := keyHashHead ++ hash.toList ++ keyHashTail

/-- The script that pays to the hash of a script. -/
def payToScriptHash (hash : Hash160) : Octets := scriptHashHead ++ hash.toList ++ scriptHashTail

/-- The hash between a head and a tail, if a script consists of just these. -/
def hashBetween? (head tail script : Octets) : Option Hash160 :=
  let middle := (script.drop head.length).take 20
  if h : middle.length = 20 ∧ script = head ++ middle ++ tail then
    some ⟨middle.toArray, by simpa using h.1⟩
  else none

/-- The classes of scripts. -/
inductive ScriptClass where
  | pubKeyHash
  | scriptHash
  | nullData
  | nonStandard
  deriving DecidableEq, Repr

/-- The name of a class. -/
def ScriptClass.name : ScriptClass → String
  | pubKeyHash => "PubKeyHash"
  | scriptHash => "ScriptHash"
  | nullData => "NullData"
  | nonStandard => "NonStandard"

/-- What an output script asks for. -/
structure Addresses where
  scriptClass : ScriptClass
  /-- The hashes that the script names. -/
  hashes : List Hash160
  /-- How many signatures it takes to spend the output. -/
  requiredSignatures : Nat
  deriving DecidableEq

/-- Classify a script and read off its hash. -/
def classify (script : Octets) : Addresses :=
  match hashBetween? keyHashHead keyHashTail script with
  | some hash => ⟨.pubKeyHash, [hash], 1⟩
  | none =>
    match hashBetween? scriptHashHead scriptHashTail script with
    | some hash => ⟨.scriptHash, [hash], 1⟩
    | none =>
      if script.head? = some Op.ret then ⟨.nullData, [], 0⟩
      else ⟨.nonStandard, [], 0⟩

end BoardDiagnostics.Ledger
