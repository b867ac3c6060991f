import BoardDiagnostics.Octets

/-!
# RIPEMD-160

The hash with a digest of twenty octets that mixes every block along two lines at once and adds
what they come to.
-/

set_option autoImplicit false

namespace BoardDiagnostics.Ripemd160

/-- The word of the block that each step of the left line takes. -/
def leftWords : List Nat :=
  [0, 1, 2, 3, 4, 5, 6, 7, 8, 9, 10, 11, 12, 13, 14, 15,
   7, 4, 13, 1, 10, 6, 15, 3, 12, 0, 9, 5, 2, 14, 11, 8,
   3, 10, 14, 4, 9, 15, 8, 1, 2, 7, 0, 6, 13, 11, 5, 12,
   1, 9, 11, 10, 0, 8, 12, 4, 13, 3, 7, 15, 14, 5, 6, 2,
   4, 0, 5, 9, 7, 12, 2, 10, 14, 1, 3, 8, 11, 6, 15, 13]

/-- The word of the block that each step of the right line takes. -/
def rightWords : List Nat :=
  [5, 14, 7, 0, 9, 2, 11, 4, 13, 6, 15, 8, 1, 10, 3, 12,
   6, 11, 3, 7, 0, 13, 5, 10, 14, 15, 8, 12, 4, 9, 1, 2,
   15, 5, 1, 3, 7, 14, 6, 9, 11, 8, 12, 2, 10, 0, 4, 13,
   8, 6, 4, 1, 3, 11, 15, 0, 5, 12, 2, 13, 9, 7, 10, 14,
   12, 15, 10, 4, 1, 5, 8, 7, 6, 2, 13, 14, 0, 3, 9, 11]

/-- How far each step of the left line rotates. -/
def leftTurns : List UInt32 :=
  [11, 14, 15, 12, 5, 8, 7, 9, 11, 13, 14, 15, 6, 7, 9, 8,
   7, 6, 8, 13, 11, 9, 7, 15, 7, 12, 15, 9, 11, 7, 13, 12,
   11, 13, 6, 7, 14, 9, 13, 15, 14, 8, 13, 6, 5, 12, 7, 5,
   11, 12, 14, 15, 14, 15, 9, 8, 9, 14, 5, 6, 8, 6, 5, 12,
   9, 15, 5, 11, 6, 8, 13, 12, 5, 12, 13, 14, 11, 8, 5, 6]

/-- How far each step of the right line rotates. -/
def rightTurns : List UInt32 :=
  [8, 9, 9, 11, 13, 15, 15, 5, 7, 7, 8, 11, 14, 14, 12, 6,
   9, 13, 15, 7, 12, 8, 9, 11, 7, 7, 12, 7, 6, 15, 13, 11,
   9, 7, 15, 11, 8, 6, 6, 14, 12, 13, 5, 14, 13, 13, 7, 5,
   15, 5, 8, 11, 14, 14, 6, 14, 6, 9, 12, 9, 12, 5, 15, 8,
   8, 5, 12, 9, 12, 5, 14, 6, 8, 13, 6, 5, 15, 13, 11, 11]

/-- The constants of the five stretches of sixteen steps on the left line. -/
def leftConstants : List UInt32 :=
  [0x00000000, 0x5a827999, 0x6ed9eba1, 0x8f1bbcdc, 0xa953fd4e]

/-- The constants of the five stretches of sixteen steps on the right line. -/
def rightConstants : List UInt32 :=
  [0x50a28be6, 0x5c4dd124, 0x6d703ef3, 0x7a6d76e9, 0x00000000]

/-- The five words that a message block is mixed into. -/
structure State where
  a : UInt32
  b : UInt32
  c : UInt32
  d : UInt32
  e : UInt32

namespace State

/-- The words before the first block. -/
def initial : State := ⟨0x67452301, 0xefcdab89, 0x98badcfe, 0x10325476, 0xc3d2e1f0⟩

/-- The words in order. -/
def words (s : State) : List UInt32 := [s.a, s.b, s.c, s.d, s.e]

end State

/-- Rotate a word to the left. -/
def rotate (w : UInt32) (count : UInt32) : UInt32 :=
  (w <<< count) ||| (w >>> (32 - count))

/-- The bitwise function of a stretch of the left line; the right line takes them backwards. -/
def mix (stretch : Nat) (x y z : UInt32) : UInt32 :=
  match stretch with
  | 0 => x ^^^ y ^^^ z
  | 1 => (x &&& y) ||| (~~~ x &&& z)
  | 2 => (x ||| ~~~ y) ^^^ z
  | 3 => (x &&& z) ||| (y &&& ~~~ z)
  | _ => x ^^^ (y ||| ~~~ z)

/-- One step of a line. -/
def step (stretch : Nat) (constant word turn : UInt32) (s : State) : State :=
  let turned := rotate (s.a + mix stretch s.b s.c s.d + word + constant) turn + s.e
  ⟨s.e, turned, s.b, rotate s.c 10, s.d⟩

/-- One line: the steps numbered from zero, with the tables of the line. -/
def line (words : List UInt32) (order : List Nat) (turns constants : List UInt32)
    (stretchOf : Nat → Nat) (s : State) : State :=
  ((order.zip turns).zipIdx).foldl (fun s entry =>
    let ((index, turn), number) := entry
    let stretch := number / 16
    step (stretchOf stretch) (constants.getD stretch 0) (words.getD index 0) turn s) s

/-- Mix a block into a state. -/
def compress (s : State) (block : Octets) : State :=
  let words := (Octets.groups 4 16 block).map fun bytes =>
    UInt32.ofNat (Octets.toNat bytes.reverse)
  let left := line words leftWords leftTurns leftConstants (fun stretch => stretch) s
  let right := line words rightWords rightTurns rightConstants (fun stretch => 4 - stretch) s
  ⟨s.b + left.c + right.d, s.c + left.d + right.e, s.d + left.e + right.a,
    s.e + left.a + right.b, s.a + left.b + right.c⟩

/-- A message with its padding: a set bit, zeros, and the length in bits, to whole blocks. -/
def padded (message : Octets) : Octets :=
  let zeros := (119 - message.length % 64) % 64
  message ++ 0x80 :: List.replicate zeros 0 ++ Octets.littleEndian 8 (8 * message.length)

/-- The digest of a message. -/
def digest (message : Octets) : Octets :=
  let text := padded message
  let final := (Octets.groups 64 (text.length / 64) text).foldl compress State.initial
  final.words.flatMap fun word => Octets.littleEndian 4 word.toNat

/-- A digest has twenty octets. -/
@[simp] theorem length_digest (message : Octets) : (digest message).length = 20 := by
  simp [digest, State.words]

end BoardDiagnostics.Ripemd160
