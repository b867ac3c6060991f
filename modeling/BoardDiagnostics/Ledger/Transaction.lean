import BoardDiagnostics.Ledger.Script

/-!
# Transactions

A transaction with one input and one output.  Its signature commits to the octets that are
hashed for it, which hold every field; the length of a script is kept in one octet.
-/

set_option autoImplicit false

namespace BoardDiagnostics.Ledger

/-- An output of an earlier transaction. -/
structure OutPoint where
  txid : Vector UInt8 32
  index : UInt32
  deriving DecidableEq

/-- An output. -/
structure Output where
  value : UInt64
  script : Octets
  deriving DecidableEq

/-- The wish to spend an earlier output, whose script is given, for a new one. -/
structure Spend where
  previous : OutPoint
  previousScript : Octets
  output : Output
  deriving DecidableEq

namespace Spend

/-- The mark of a signature over the whole transaction. -/
def wholeTransaction : UInt8 := 0x01

/-- The octets that a signature commits to. -/
def signedOctets (spend : Spend) : Octets :=
  Octets.littleEndian 4 1 ++ [1] ++ spend.previous.txid.toList ++
    Octets.littleEndian 4 spend.previous.index.toNat ++
    [UInt8.ofNat spend.previousScript.length] ++ spend.previousScript ++
    Octets.littleEndian 4 0xffffffff ++ [1] ++ Octets.littleEndian 8 spend.output.value.toNat ++
    [UInt8.ofNat spend.output.script.length] ++ spend.output.script ++
    Octets.littleEndian 4 0 ++ Octets.littleEndian 4 wholeTransaction.toNat

/-- The digest that is signed. -/
def digest (spend : Spend) : Octets := doubleSha256 spend.signedOctets

end Spend

end BoardDiagnostics.Ledger
