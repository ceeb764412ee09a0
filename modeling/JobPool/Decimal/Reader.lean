/-
**Reading numbers.**

Natural numbers are runs of decimal digits; a binary64 number is a sign, then a word for an
infinity or NaN, or digits with at most one point and an optional exponent. At least one digit
stands before or after the point. The value is the binary64 number nearest to the decimal, so a
text that `Decimal.plain` wrote reads back as the number it was written for.
-/

namespace JobPool.Decimal

/-- The longest run of decimal digits at the start, and the rest. -/
def spanDigits (text : List Char) : List Char × List Char :=
  text.span Char.isDigit

/-- The value of a run of digits. -/
def digitsValue (digits : List Char) : Nat :=
  digits.foldl (fun value digit => value * 10 + (digit.toNat - '0'.toNat)) 0

/-- A natural number written with digits alone. -/
def readNat? (text : List Char) : Option Nat :=
  if text.isEmpty then none
  else if text.all Char.isDigit then some (digitsValue text) else none

/-- A sign at the start, with the rest. -/
def takeSign : List Char → Bool × List Char
  | '-' :: rest => (true, rest)
  | '+' :: rest => (false, rest)
  | rest => (false, rest)

/-- An exponent with its mark, or nothing at all. -/
def readExponent? : List Char → Option Int
  | [] => some 0
  | mark :: rest =>
    if mark = 'e' ∨ mark = 'E' then
      let (negative, digits) := takeSign rest
      (readNat? digits).map fun size => if negative then -(size : Int) else size
    else none

/-- The number nearest to `coefficient · 10 ^ exponent`. Magnitudes beyond every finite number and
below every positive one are settled by the count of digits alone. -/
def nearest (coefficient : Nat) (exponent : Int) : Float :=
  let length : Int := (Nat.repr coefficient).length
  if coefficient = 0 ∨ exponent + length < -400 then 0
  else if 400 < exponent + length then Float.ofScientific 1 false 400
  else Float.ofScientific coefficient (decide (exponent < 0)) exponent.natAbs

/-- An unsigned decimal with an optional point and an optional exponent. -/
def readUnsigned? (text : List Char) : Option Float :=
  let (whole, rest) := spanDigits text
  let (fraction, rest) := match rest with
    | '.' :: rest => spanDigits rest
    | _ => ([], rest)
  if whole.isEmpty && fraction.isEmpty then none
  else (readExponent? rest).map fun exponent =>
    nearest (digitsValue (whole ++ fraction)) (exponent - fraction.length)

/-- A binary64 number with an optional sign; the words for infinity and NaN are read in any case. -/
def readFloat? (text : List Char) : Option Float :=
  let (negative, unsigned) := takeSign text
  let word := String.ofList (unsigned.map Char.toLower)
  let magnitude :=
    if word = "inf" ∨ word = "infinity" then some (1 / 0)
    else if word = "nan" then some (0 / 0)
    else readUnsigned? unsigned
  magnitude.map fun value => if negative then -value else value

end JobPool.Decimal
