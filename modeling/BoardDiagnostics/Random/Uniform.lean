/-!
# Uniform numbers

Drawing a number from one to `n`, all equally likely, out of random words of 64 bits.  A word
times `n` has a high and a low half; the high half is the number, unless the low half lies above
a limit, in which case the word is rejected and the next one is taken.  The limit is the
greatest multiple of `n` by a power of two that fits, less one, so that every number keeps the
same count of words.
-/

set_option autoImplicit false

namespace BoardDiagnostics.Uniform

/-- The count of words. -/
def wordCount : Nat := 0x10000000000000000

/-- The zero bits in front of a number of 64 bits. -/
def leadingZeros (n : Nat) : Nat :=
  if n = 0 then 64 else 63 - Nat.log2 n

/-- The greatest low half that is accepted. -/
def limit (n : Nat) : Nat := (n <<< leadingZeros n) - 1

/-- The number that a word gives, unless the word is rejected. -/
def ofWord? (n : Nat) (word : UInt64) : Option Nat :=
  let product := word.toNat * n
  if product % wordCount ≤ limit n then some (product / wordCount + 1) else none

/-- A row of random words without an end: the given ones, and zeros behind them. -/
structure Supply where
  /-- How many words were given. -/
  length : Nat
  /-- The words by number. -/
  word : Nat → UInt64

namespace Supply

/-- The words of a list. -/
def ofList (words : List UInt64) : Supply := ⟨words.length, fun i => words.getD i 0⟩

/-- The word of a number; behind the given words there are zeros. -/
def get (supply : Supply) (i : Nat) : UInt64 :=
  if i < supply.length then supply.word i else 0

end Supply

/-- Draw a number, beginning with the word of a number, out of at most so many words: the number
that is drawn, and how many words were taken in all. -/
def drawWithin (n : Nat) (supply : Supply) : Nat → Nat → Nat × Nat
  | 0, i => (1, i + 1)
  | fuel + 1, i =>
    match ofWord? n (supply.get i) with
    | some value => (value, i + 1)
    | none => drawWithin n supply fuel (i + 1)

/-- Draw a number from one to `n`, beginning with the word of a number.  A zero is never
rejected and gives one, so the draw ends at the latest behind the given words. -/
def draw (n : Nat) (supply : Supply) (i : Nat) : Nat × Nat :=
  drawWithin n supply (supply.length - i) i

end BoardDiagnostics.Uniform
