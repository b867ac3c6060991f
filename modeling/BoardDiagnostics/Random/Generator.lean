import BoardDiagnostics.Octets
import BoardDiagnostics.Random.Uniform

/-!
# The seeded generator

Random words out of a seed.  The seed is expanded to a key by a small permuted congruential
generator; the words are the key stream of ChaCha with twelve rounds under that key, with a
block counter of 64 bits and no nonce.
-/

set_option autoImplicit false

namespace BoardDiagnostics.Generator

/-- One step of the generator that expands seeds. -/
def expandStep (state : UInt64) : UInt64 := state * 6364136223846793005 + 11634580027462260723

/-- The 32 bits that a state of that generator gives. -/
def expandOutput (state : UInt64) : UInt32 :=
  let mixed := (((state >>> 18) ^^^ state) >>> 27).toUInt32
  let turn := (state >>> 59).toUInt32
  (mixed >>> turn) ||| (mixed <<< ((32 - turn) &&& 31))

/-- So many words of a key, expanded from a state. -/
def expand : Nat → UInt64 → List UInt32
  | 0, _ => []
  | count + 1, state =>
    let state := expandStep state
    expandOutput state :: expand count state

/-- The key of a seed. -/
def keyOfSeed (seed : UInt64) : List UInt32 := expand 8 seed

/-- The sixteen words of a ChaCha block. -/
abbrev Block := Vector UInt32 16

/-- Rotate a word to the left. -/
def rotate (w : UInt32) (count : UInt32) : UInt32 :=
  (w <<< count) ||| (w >>> (32 - count))

/-- Mix four words of a block. -/
def quarter (s : Block) (a b c d : Fin 16) : Block :=
  let wa := s[a] + s[b]
  let wd := rotate (s[d] ^^^ wa) 16
  let wc := s[c] + wd
  let wb := rotate (s[b] ^^^ wc) 12
  let wa := wa + wb
  let wd := rotate (wd ^^^ wa) 8
  let wc := wc + wd
  let wb := rotate (wb ^^^ wc) 7
  (((s.set a wa).set b wb).set c wc).set d wd

/-- Two rounds: along the columns, then along the diagonals. -/
def doubleRound (s : Block) : Block :=
  let s := quarter s 0 4 8 12
  let s := quarter s 1 5 9 13
  let s := quarter s 2 6 10 14
  let s := quarter s 3 7 11 15
  let s := quarter s 0 5 10 15
  let s := quarter s 1 6 11 12
  let s := quarter s 2 7 8 13
  quarter s 3 4 9 14

/-- Apply a function again and again. -/
def iterate (f : Block → Block) : Nat → Block → Block
  | 0, s => s
  | count + 1, s => iterate f count (f s)

/-- The block before mixing: a constant, the key and the counter. -/
def inputBlock (key : List UInt32) (counter : Nat) : Block :=
  #v[0x61707865, 0x3320646e, 0x79622d32, 0x6b206574,
    key.getD 0 0, key.getD 1 0, key.getD 2 0, key.getD 3 0,
    key.getD 4 0, key.getD 5 0, key.getD 6 0, key.getD 7 0,
    UInt32.ofNat counter, UInt32.ofNat (counter >>> 32), 0, 0]

/-- A block of the key stream. -/
def streamBlock (key : List UInt32) (counter : Nat) : Block :=
  let input := inputBlock key counter
  (iterate doubleRound 6 input).zipWith (· + ·) input

/-- A word of 64 bits of the key stream, the first 32 bits of which are the lower ones. -/
def wordAt (key : List UInt32) (i : Nat) : UInt64 :=
  let block := streamBlock key (i / 8)
  let low := block.toList.getD (2 * (i % 8)) 0
  let high := block.toList.getD (2 * (i % 8) + 1) 0
  low.toUInt64 ||| (high.toUInt64 <<< 32)

/-- The random words of a seed. -/
def ofSeed (seed : UInt64) : Uniform.Supply :=
  ⟨Uniform.wordCount, wordAt (keyOfSeed seed)⟩

end BoardDiagnostics.Generator
