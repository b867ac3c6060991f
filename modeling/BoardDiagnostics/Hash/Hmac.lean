import BoardDiagnostics.Hash.Sha256

/-!
# Keyed hashing

HMAC over SHA-256: the message is hashed behind the key under one mask, and that digest behind
the key under another.
-/

set_option autoImplicit false

namespace BoardDiagnostics.Hmac

/-- The size of a block of the hash. -/
def blockSize : Nat := 64

/-- A key filled up with zeros to a block; a longer key is hashed first. -/
def blockKey (key : Octets) : Octets :=
  let short := if blockSize < key.length then Sha256.digest key else key
  short ++ List.replicate (blockSize - short.length) 0

/-- The tag of a message under a key. -/
def tag (key message : Octets) : Octets :=
  let block := blockKey key
  let inner := Sha256.digest (block.map (· ^^^ 0x36) ++ message)
  Sha256.digest (block.map (· ^^^ 0x5c) ++ inner)

end BoardDiagnostics.Hmac
