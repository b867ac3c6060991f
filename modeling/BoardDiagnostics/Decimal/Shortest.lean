/-!
# Shortest decimals

The shortest decimal that reads back as a given binary64 number.  A finite number is `m · 2^q`;
the reals that round to it form an interval around it, whose ends belong to it when `m` is even.
On each grid of one, two, three and more digits the two neighbours of the number are tried: the
first grid that has a point in the interval wins, and of two points the nearer.  Seventeen
digits always suffice.
-/

set_option autoImplicit false

namespace BoardDiagnostics.Decimal

/-- A positive binary64 number `significand · 2 ^ (power - 1074)`. -/
structure Binary where
  significand : Nat
  power : Nat
  deriving DecidableEq, Repr

/-- A decimal `digits · 10 ^ exponent`. -/
structure Scaled where
  digits : Nat
  exponent : Int
  deriving DecidableEq, Repr

/-- A quotient of two natural numbers, the second not zero. -/
structure Ratio where
  num : Nat
  den : Nat

namespace Ratio

/-- A ratio over a power of ten. -/
def overTen (r : Ratio) (exponent : Int) : Ratio :=
  match exponent with
  | .ofNat e => ⟨r.num, r.den * Nat.pow 10 e⟩
  | .negSucc e => ⟨r.num * Nat.pow 10 (e + 1), r.den⟩

/-- The whole part of a ratio. -/
def floor (r : Ratio) : Nat := r.num / r.den

end Ratio

namespace Binary

/-- The bit in front of the fraction of a number that is not too small for one. -/
def leadingBit : Nat := 0x10000000000000

/-- A quarter of a number's last place, times a factor, as a ratio. -/
def quarters (b : Binary) (factor : Nat) : Ratio :=
  ⟨factor <<< b.power, 1 <<< 1076⟩

/-- The number as a ratio. -/
def value (b : Binary) : Ratio := b.quarters (4 * b.significand)

/-- The number below is half as far away as the number above. -/
def isNarrowBelow (b : Binary) : Bool :=
  b.significand = leadingBit && b.power ≠ 0

/-- The lower end of the interval of reals that round to the number. -/
def lower (b : Binary) : Ratio :=
  b.quarters (4 * b.significand - (if b.isNarrowBelow then 1 else 2))

/-- The upper end of the interval of reals that round to the number. -/
def upper (b : Binary) : Ratio := b.quarters (4 * b.significand + 2)

/-- A multiple of a power of ten rounds to the number. -/
def reads (b : Binary) (c : Scaled) : Bool :=
  let low := b.lower.overTen c.exponent
  let high := b.upper.overTen c.exponent
  if b.significand % 2 = 0 then low.num ≤ c.digits * low.den && c.digits * high.den ≤ high.num
  else low.num < c.digits * low.den && c.digits * high.den < high.num

/-- The power of ten of the leading digit: the number is at least `10 ^ e` and less than
`10 ^ (e + 1)`.  Counting starts from an exponent that is known to be large enough. -/
def leadingPower (b : Binary) : Int :=
  let v := b.value
  if v.den ≤ v.num then Int.ofNat ((Nat.toDigits 10 (v.num / v.den)).length - 1)
  else -Int.ofNat ((Nat.toDigits 10 ((v.den + v.num - 1) / v.num - 1)).length)

/-- The point of one grid that rounds to the number and is nearest to it, an even one of two
points that are equally near. -/
def onGrid? (b : Binary) (exponent : Int) : Option Scaled :=
  let v := b.value.overTen exponent
  let below : Scaled := ⟨v.floor, exponent⟩
  let above : Scaled := ⟨v.floor + 1, exponent⟩
  let belowReads := b.reads below
  let aboveReads := b.reads above
  if belowReads && aboveReads then
    let twice := 2 * (v.num - below.digits * v.den)
    if twice < v.den then some below
    else if v.den < twice then some above
    else if below.digits % 2 = 0 then some below
    else some above
  else if belowReads then some below
  else if aboveReads then some above
  else none

/-- The shortest decimal that reads back as the number; trailing zeros are left to the exponent
by the grid that is found first. -/
def shortest (b : Binary) : Scaled :=
  let top := b.leadingPower
  let found := (List.range 17).findSome? fun k => b.onGrid? (top - Int.ofNat k)
  found.getD ⟨0, 0⟩

end Binary

/-- How decimals are laid out. -/
structure Layout where
  /-- The least power of the leading digit that is written without an exponent. -/
  leastPositional : Int
  /-- The greatest such power. -/
  greatestPositional : Int
  /-- What stands before a positive exponent. -/
  plus : String
  /-- What stands behind a whole number that is written without an exponent. -/
  wholeTail : String

/-- The digits of a decimal, the last one not zero, and the power of the first. -/
def Scaled.normal (d : Scaled) : List Char × Int :=
  let digits := Nat.toDigits 10 d.digits
  let kept := (digits.reverse.dropWhile (· = '0')).reverse
  (kept, d.exponent + Int.ofNat digits.length - 1)

/-- A whole number in decimal digits, with a sign. -/
def signed (layout : Layout) : Int → String
  | .ofNat n => layout.plus ++ toString n
  | .negSucc n => "-" ++ toString (n + 1)

/-- The text of a positive decimal. -/
def Layout.text (layout : Layout) (d : Scaled) : String :=
  let (digits, power) := d.normal
  if layout.leastPositional ≤ power ∧ power ≤ layout.greatestPositional then
    match power with
    | .ofNat p =>
      let whole := digits.take (p + 1) ++ List.replicate (p + 1 - digits.length) '0'
      let fraction := digits.drop (p + 1)
      String.ofList whole ++
        (if fraction.isEmpty then layout.wholeTail else "." ++ String.ofList fraction)
    | .negSucc p => "0." ++ String.ofList (List.replicate p '0' ++ digits)
  else
    let fraction := digits.drop 1
    String.ofList (digits.take 1) ++
      (if fraction.isEmpty then "" else "." ++ String.ofList fraction) ++
      "e" ++ signed layout power

/-- The parts of a finite binary64 number other than zero, without its sign. -/
def binaryOfBits (bits : UInt64) : Binary :=
  let fraction := bits.toNat % Binary.leadingBit
  let biased := bits.toNat / Binary.leadingBit % 0x800
  if biased = 0 then ⟨fraction, 0⟩ else ⟨Binary.leadingBit + fraction, biased - 1⟩

/-- The bit that tells the sign of a binary64 number. -/
def signBit : Nat := 0x8000000000000000

/-- The text of a finite binary64 number. -/
def Layout.floatText (layout : Layout) (x : Float) : String :=
  let bits := x.toBits
  let sign := if bits.toNat < signBit then "" else "-"
  if bits.toNat % signBit = 0 then sign ++ "0" ++ layout.wholeTail
  else sign ++ layout.text (binaryOfBits bits).shortest

end BoardDiagnostics.Decimal
