/-!
# The curve secp256k1

Points of `y² = x³ + 7` over the field of `2^256 - 2^32 - 977` elements.  Multiples of a point
are taken in Jacobian coordinates, where `(x, y, z)` stands for `(x / z², y / z³)` and a `z` of
zero for the point at infinity, so that only the last step divides.
-/

set_option autoImplicit false

namespace BoardDiagnostics.Secp256k1

/-- The number of elements of the field. -/
def p : Nat := 0xfffffffffffffffffffffffffffffffffffffffffffffffffffffffefffffc2f

/-- The number of points of the curve. -/
def n : Nat := 0xfffffffffffffffffffffffffffffffebaaedce6af48a03bbfd25e8cd0364141

/-- A power modulo a number, for exponents of at most so many bits. -/
def powMod (modulus base : Nat) : Nat → Nat → Nat
  | 0, _ => 1 % modulus
  | bits + 1, exponent =>
    let half := powMod modulus base bits (exponent / 2)
    let square := half * half % modulus
    if exponent % 2 = 1 then square * base % modulus else square

/-- The inverse modulo a prime of at most 256 bits, by Fermat's little theorem. -/
def inverse (prime a : Nat) : Nat := powMod prime a 256 (prime - 2)

/-- A difference in the field. -/
def sub (a b : Nat) : Nat := (a + (p - b % p)) % p

/-- The right-hand side of the equation of the curve. -/
def cubic (x : Nat) : Nat := (x * x % p * x + 7) % p

/-- A square root in the field, if there is one. -/
def sqrt? (a : Nat) : Option Nat :=
  let root := powMod p a 256 ((p + 1) / 4)
  if root * root % p = a % p then some root else none

/-- A point of the curve other than the one at infinity. -/
structure Affine where
  x : Nat
  y : Nat
  deriving DecidableEq, Repr

/-- The point with which keys are made. -/
def generator : Affine :=
  ⟨0x79be667ef9dcbbac55a06295ce870b07029bfcdb2dce28d959f2815b16f81798,
    0x483ada7726a3c4655da4fbfc0e1108a8fd17b448a68554199c47d08ffb10d4b8⟩

namespace Affine

/-- The point satisfies the equation of the curve, with both coordinates in the field. -/
def isOnCurve (point : Affine) : Bool :=
  point.x < p && point.y < p && point.y * point.y % p = cubic point.x

/-- The point with a given `x` whose `y` is odd or even, if there is one. -/
def ofX? (x : Nat) (isOdd : Bool) : Option Affine :=
  if x < p then
    match sqrt? (cubic x) with
    | none => none
    | some root => some ⟨x, if (root % 2 = 1) = isOdd then root else (p - root) % p⟩
  else none

end Affine

/-- A point in Jacobian coordinates. -/
structure Jacobian where
  x : Nat
  y : Nat
  z : Nat

namespace Jacobian

/-- The point at infinity. -/
def infinity : Jacobian := ⟨1, 1, 0⟩

/-- A point of the plane. -/
def ofAffine (point : Affine) : Jacobian := ⟨point.x, point.y, 1⟩

/-- Twice a point. -/
def double (a : Jacobian) : Jacobian :=
  if a.z = 0 ∨ a.y = 0 then infinity
  else
    let yy := a.y * a.y % p
    let s := 4 * a.x * yy % p
    let m := 3 * a.x * a.x % p
    let x := sub (m * m) (2 * s)
    ⟨x, sub (m * sub s x) (8 * yy * yy), 2 * a.y * a.z % p⟩

/-- The sum of two points. -/
def add (a b : Jacobian) : Jacobian :=
  if a.z = 0 then b
  else if b.z = 0 then a
  else
    let azz := a.z * a.z % p
    let bzz := b.z * b.z % p
    let u := a.x * bzz % p
    let v := b.x * azz % p
    let s := a.y * bzz % p * b.z % p
    let t := b.y * azz % p * a.z % p
    let h := sub v u
    let r := sub t s
    if h = 0 then (if r = 0 then a.double else infinity)
    else
      let hh := h * h % p
      let hhh := h * hh % p
      let w := u * hh % p
      let x := sub (r * r) (hhh + 2 * w)
      ⟨x, sub (r * sub w x) (s * hhh), h * a.z % p * b.z % p⟩

/-- A multiple of a point, by a factor of at most so many bits. -/
def multiple (a : Jacobian) : Nat → Nat → Jacobian
  | 0, _ => infinity
  | bits + 1, factor =>
    let half := (multiple a bits (factor / 2)).double
    if factor % 2 = 1 then half.add a else half

/-- The point in the plane, unless it is at infinity. -/
def toAffine? (a : Jacobian) : Option Affine :=
  if a.z = 0 then none
  else
    let i := inverse p a.z
    let ii := i * i % p
    some ⟨a.x * ii % p, a.y * ii % p * i % p⟩

end Jacobian

/-- The sum of a multiple of the generator and a multiple of a point. -/
def combine (u v : Nat) (point : Affine) : Option Affine :=
  (((Jacobian.ofAffine generator).multiple 256 u).add
    ((Jacobian.ofAffine point).multiple 256 v)).toAffine?

/-- A multiple of the generator. -/
def multipleOfGenerator (factor : Nat) : Option Affine :=
  ((Jacobian.ofAffine generator).multiple 256 factor).toAffine?

end BoardDiagnostics.Secp256k1
