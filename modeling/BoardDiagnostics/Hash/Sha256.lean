import BoardDiagnostics.Octets

/-!
# SHA-256

The hash of FIPS 180-4 with a digest of thirty-two octets.
-/

set_option autoImplicit false

namespace BoardDiagnostics.Sha256

/-- The constant of each round: the fractions of the cube roots of the first primes. -/
def roundConstants : List UInt32 :=
  [0x428a2f98, 0x71374491, 0xb5c0fbcf, 0xe9b5dba5, 0x3956c25b, 0x59f111f1, 0x923f82a4, 0xab1c5ed5,
   0xd807aa98, 0x12835b01, 0x243185be, 0x550c7dc3, 0x72be5d74, 0x80deb1fe, 0x9bdc06a7, 0xc19bf174,
   0xe49b69c1, 0xefbe4786, 0x0fc19dc6, 0x240ca1cc, 0x2de92c6f, 0x4a7484aa, 0x5cb0a9dc, 0x76f988da,
   0x983e5152, 0xa831c66d, 0xb00327c8, 0xbf597fc7, 0xc6e00bf3, 0xd5a79147, 0x06ca6351, 0x14292967,
   0x27b70a85, 0x2e1b2138, 0x4d2c6dfc, 0x53380d13, 0x650a7354, 0x766a0abb, 0x81c2c92e, 0x92722c85,
   0xa2bfe8a1, 0xa81a664b, 0xc24b8b70, 0xc76c51a3, 0xd192e819, 0xd6990624, 0xf40e3585, 0x106aa070,
   0x19a4c116, 0x1e376c08, 0x2748774c, 0x34b0bcb5, 0x391c0cb3, 0x4ed8aa4a, 0x5b9cca4f, 0x682e6ff3,
   0x748f82ee, 0x78a5636f, 0x84c87814, 0x8cc70208, 0x90befffa, 0xa4506ceb, 0xbef9a3f7, 0xc67178f2]

/-- The eight words that a message block is mixed into. -/
structure State where
  a : UInt32
  b : UInt32
  c : UInt32
  d : UInt32
  e : UInt32
  f : UInt32
  g : UInt32
  h : UInt32

namespace State

/-- The words before the first block: the fractions of the square roots of the first primes. -/
def initial : State :=
  ⟨0x6a09e667, 0xbb67ae85, 0x3c6ef372, 0xa54ff53a,
    0x510e527f, 0x9b05688c, 0x1f83d9ab, 0x5be0cd19⟩

/-- Add two states word by word. -/
def add (s t : State) : State :=
  ⟨s.a + t.a, s.b + t.b, s.c + t.c, s.d + t.d, s.e + t.e, s.f + t.f, s.g + t.g, s.h + t.h⟩

/-- The words in order. -/
def words (s : State) : List UInt32 := [s.a, s.b, s.c, s.d, s.e, s.f, s.g, s.h]

end State

/-- Rotate a word to the right. -/
def rotate (w : UInt32) (count : UInt32) : UInt32 :=
  (w >>> count) ||| (w <<< (32 - count))

/-- One round, with its constant and its word of the schedule. -/
def round (s : State) (constant word : UInt32) : State :=
  let choice := (s.e &&& s.f) ^^^ (~~~ s.e &&& s.g)
  let majority := (s.a &&& s.b) ^^^ (s.a &&& s.c) ^^^ (s.b &&& s.c)
  let sumE := rotate s.e 6 ^^^ rotate s.e 11 ^^^ rotate s.e 25
  let sumA := rotate s.a 2 ^^^ rotate s.a 13 ^^^ rotate s.a 22
  let first := s.h + sumE + choice + constant + word
  ⟨first + sumA + majority, s.a, s.b, s.c, s.d + first, s.e, s.f, s.g⟩

/-- Extend a schedule, kept with its newest word in front, by so many words. -/
def extend : Nat → List UInt32 → List UInt32
  | 0, newest => newest
  | count + 1, newest =>
    let early := newest.getD 14 0
    let late := newest.getD 1 0
    let mixEarly := rotate early 7 ^^^ rotate early 18 ^^^ (early >>> 3)
    let mixLate := rotate late 17 ^^^ rotate late 19 ^^^ (late >>> 10)
    extend count ((newest.getD 15 0 + mixEarly + newest.getD 6 0 + mixLate) :: newest)

/-- The sixty-four words of a block of sixty-four octets. -/
def schedule (block : Octets) : List UInt32 :=
  let words := (Octets.groups 4 16 block).map fun bytes => UInt32.ofNat (Octets.toNat bytes)
  (extend 48 words.reverse).reverse

/-- Mix a block into a state. -/
def compress (s : State) (block : Octets) : State :=
  let rounds := roundConstants.zip (schedule block)
  s.add (rounds.foldl (fun s step => round s step.1 step.2) s)

/-- A message with its padding: a set bit, zeros, and the length in bits, to whole blocks. -/
def padded (message : Octets) : Octets :=
  let zeros := (119 - message.length % 64) % 64
  message ++ 0x80 :: List.replicate zeros 0 ++ Octets.bigEndian 8 (8 * message.length)

/-- The digest of a message. -/
def digest (message : Octets) : Octets :=
  let text := padded message
  let final := (Octets.groups 64 (text.length / 64) text).foldl compress State.initial
  final.words.flatMap fun word => Octets.bigEndian 4 word.toNat

/-- A digest has 32 octets. -/
@[simp] theorem length_digest (message : Octets) : (digest message).length = 32 := by
  simp [digest, State.words]

end BoardDiagnostics.Sha256
