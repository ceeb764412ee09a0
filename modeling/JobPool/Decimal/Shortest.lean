/-
**The fewest digits that read back.**

A binary64 number stands for an interval of reals: those nearer to it than to any other number,
its ends included exactly when the significand is even. Among the decimals inside, the text uses
one with the fewest digits, and of those the one nearest to the exact value.

The search is over grids: for one digit, two digits and so on, the two neighbours of the value on
the grid `10 ^ exponent` are tried (`Binary.candidate?`). If any point of a grid lies in the
interval then one of these two does, so the first grid with a hit has the fewest digits.

* `Digits.positional` writes the digits without an exponent, whatever the magnitude.
* `Digits.scientific` writes a point only between magnitudes `10 ^ -5` and `10 ^ 16`, and an
  exponent outside.
-/

import JobPool.Decimal.Binary

namespace JobPool

/-- A decimal `coefficient · 10 ^ exponent`. -/
structure Digits where
  coefficient : Nat
  exponent : Int
  deriving DecidableEq, Repr

/-- What becomes of a value halfway between two candidates of equal length. -/
inductive Tie where
  | up
  | even
  deriving DecidableEq, Repr

namespace Binary

/-- Compares `left · 10 ^ leftExponent` with `right · 2 ^ rightExponent` exactly. -/
def compareScaled (left : Nat) (leftExponent : Int) (right : Nat) (rightExponent : Int) :
    Ordering :=
  compare (left * Nat.pow 10 leftExponent.toNat <<< (-rightExponent).toNat)
    (right * Nat.pow 10 (-leftExponent).toNat <<< rightExponent.toNat)

/-- The decimal lies in the interval of reals that round to the value. -/
def readsBack (value : Binary) (digits : Digits) : Bool :=
  let low := 4 * value.significand - (if value.narrowBelow then 1 else 2)
  let high := 4 * value.significand + 2
  let closed := value.significand % 2 == 0
  let fromLow := compareScaled digits.coefficient digits.exponent low (value.exponent - 2)
  let fromHigh := compareScaled digits.coefficient digits.exponent high (value.exponent - 2)
  (fromLow == .gt || closed && fromLow == .eq) && (fromHigh == .lt || closed && fromHigh == .eq)

/-- The better of the value's two neighbours on a decimal grid, if one of them reads back. -/
def candidate? (value : Binary) (tie : Tie) (exponent : Int) : Option Digits :=
  let scaled := value.numerator * Nat.pow 10 (-exponent).toNat
  let unit := value.denominator * Nat.pow 10 exponent.toNat
  let below : Digits := ⟨scaled / unit, exponent⟩
  let above : Digits := ⟨scaled / unit + 1, exponent⟩
  match value.readsBack below, value.readsBack above with
  | false, false => none
  | true, false => some below
  | false, true => some above
  | true, true =>
    match compare (2 * (scaled % unit)) unit, tie with
    | .lt, _ => some below
    | .gt, _ => some above
    | .eq, .up => some above
    | .eq, .even => some (if below.coefficient % 2 = 0 then below else above)

/-- A power of ten above the value, from its binary length. -/
def decimalLength (value : Binary) : Int :=
  let bits : Int := (value.significand.log2 : Int) + 1 + value.exponent
  let guess := bits * 30103 / 100000 - 1
  let reached (power : Int) : Bool :=
    compareScaled 1 power value.significand value.exponent == .gt
  ((List.range 4).map fun (step : Nat) => guess + Int.ofNat step).find? reached |>.getD (guess + 4)

/-- The fewest digits that read back, at most seventeen. -/
def shortest (value : Binary) (tie : Tie) : Digits :=
  if value.significand = 0 then ⟨0, 0⟩ else
  let length := value.decimalLength
  ((List.range 17).findSome? fun (count : Nat) =>
      value.candidate? tie (length - (Int.ofNat count + 1))).getD
    ⟨value.numerator * Nat.pow 5 (-value.exponent).toNat, min value.exponent 0⟩

end Binary

namespace Digits

/-- Moves the trailing zeros of the coefficient into the exponent. -/
def strip (digits : Digits) : Digits :=
  let zeros := ((Nat.repr digits.coefficient).toList.reverse.takeWhile (· == '0')).length
  if digits.coefficient = 0 then ⟨0, 0⟩
  else ⟨digits.coefficient / Nat.pow 10 zeros, digits.exponent + zeros⟩

/-- The digits with a point where they need one, and never an exponent. -/
def positional (digits : Digits) : String :=
  let text := (Nat.repr digits.coefficient).toList
  if 0 ≤ digits.exponent then
    String.ofList (text ++ List.replicate digits.exponent.toNat '0')
  else
    let places := (-digits.exponent).toNat
    let padded := List.replicate (places + 1 - text.length) '0' ++ text
    String.ofList (padded.take (padded.length - places) ++
      '.' :: padded.drop (padded.length - places))

/-- The digits with a point for magnitudes from `10 ^ -5` up to `10 ^ 16`, always with a
fraction, and with an exponent outside. -/
def scientific (digits : Digits) : String :=
  let text := Nat.repr digits.coefficient
  let point := (text.length : Int) + digits.exponent
  if -5 < point ∧ point ≤ 16 then
    digits.positional ++ (if 0 ≤ digits.exponent then ".0" else "")
  else
    let fraction := String.ofList (text.toList.drop 1)
    String.ofList (text.toList.take 1) ++ (if fraction.isEmpty then "" else "." ++ fraction) ++
      "e" ++ toString (point - 1)

end Digits

namespace Decimal

/-- Writes a number by a rule for its digits, with words for infinities and NaN. -/
def written (tie : Tie) (rule : Digits → String) (number : Float) : String :=
  if number.isNaN then "NaN" else
  match Binary.ofFloat? number with
  | none => if number < 0 then "-inf" else "inf"
  | some value => (if value.negative then "-" else "") ++ rule (value.shortest tie).strip

/-- The text of a number in messages: the fewest digits, never an exponent. -/
def plain : Float → String := written .up Digits.positional

/-- The text of a number in documents: the fewest digits, an exponent for extreme magnitudes. -/
def document : Float → String := written .even Digits.scientific

end Decimal

end JobPool
