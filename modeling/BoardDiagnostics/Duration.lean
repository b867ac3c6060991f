/-!
# Durations

A length of time in whole nanoseconds, and its text: the largest of the units s, ms, µs and ns
that is not zero, with as many decimals as the length needs.
-/

set_option autoImplicit false

namespace BoardDiagnostics

/-- A length of time. -/
structure Duration where
  nanoseconds : Nat
  deriving DecidableEq, Repr

namespace Duration

/-- So many milliseconds. -/
def ofMilliseconds (ms : Nat) : Duration := ⟨ms * 1000000⟩

/-- No time at all. -/
def zero : Duration := ⟨0⟩

instance : LE Duration := ⟨fun a b => a.nanoseconds ≤ b.nanoseconds⟩

instance : LT Duration := ⟨fun a b => a.nanoseconds < b.nanoseconds⟩

instance (a b : Duration) : Decidable (a < b) :=
  inferInstanceAs (Decidable (a.nanoseconds < b.nanoseconds))

/-- The digits of a number, with zeros in front up to a length. -/
def paddedDigits (length n : Nat) : List Char :=
  let digits := Nat.toDigits 10 n
  List.replicate (length - digits.length) '0' ++ digits

/-- The decimals of a fraction of so many places: a point and the digits up to the last one
that is not zero, or nothing for a fraction of zero. -/
def decimals (places fraction : Nat) : String :=
  if fraction = 0 then ""
  else
    let digits := (paddedDigits places fraction).reverse.dropWhile (· = '0')
    "." ++ String.ofList digits.reverse

/-- A number of units of `10 ^ places` nanoseconds. -/
def inUnit (places n : Nat) : String :=
  toString (n / Nat.pow 10 places) ++ decimals places (n % Nat.pow 10 places)

/-- The text of a length of time. -/
def text (d : Duration) : String :=
  let n := d.nanoseconds
  if 1000000000 ≤ n then inUnit 9 n ++ "s"
  else if 1000000 ≤ n then inUnit 6 n ++ "ms"
  else if 1000 ≤ n then inUnit 3 n ++ "µs"
  else toString n ++ "ns"

end Duration

end BoardDiagnostics
