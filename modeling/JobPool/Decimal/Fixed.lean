/-
**Numbers with a fixed count of decimal places.**

The exact binary value is rounded to the nearest multiple of `10 ^ -places`, a half going to the
even digit, and written without an exponent. The sign of a zero is kept.
-/

import JobPool.Decimal.Binary

namespace JobPool.Decimal

/-- A natural number in units of `10 ^ -places`, written with a point. -/
def pointed (places : Nat) (units : Nat) : String :=
  let digits := (Nat.repr units).toList
  let padded := List.replicate (places + 1 - digits.length) '0' ++ digits
  let whole := padded.take (padded.length - places)
  let fraction := padded.drop (padded.length - places)
  String.ofList (if places = 0 then whole else whole ++ '.' :: fraction)

/-- The text of a number with `places` decimals. -/
def fixed (places : Nat) (number : Float) : String :=
  if number.isNaN then "NaN" else
  match Binary.ofFloat? number with
  | none => if number < 0 then "-inf" else "inf"
  | some value =>
    let units := roundQuotient (value.numerator * Nat.pow 10 places) value.denominator
    (if value.negative then "-" else "") ++ pointed places units

end JobPool.Decimal
