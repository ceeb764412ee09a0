/-
**The logarithm of one plus a number, and its inverse.**

Both functions reduce their argument by a multiple of `log 2` and then use a short polynomial, with
correction terms for what the reduction rounds away, so that neither loses digits near zero.

* `log1p` writes `1 + x = 2 ^ k · (1 + f)` with `1 + f` between `√½` and `√2`. With
  `s = f / (2 + f)` the logarithm of `1 + f` is `f - (f² / 2 - s · (f² / 2 + R))`, where `R` is a
  polynomial in `s²`.
* `expm1` writes `x = k · log 2 + r` with `|r| ≤ log 2 / 2`. The exponential of `r` less one is
  `r - (r · e - r² / 2)`, where `e` comes from a polynomial in `r²`, and the result is scaled by
  `2 ^ k` in an order that depends on `k`.

Both are exact at zero and increase to infinity; below `-1` the logarithm is NaN.
-/

namespace JobPool.Binary64

/-- The upper part of `log 2`, with trailing zeros so that small multiples are exact. -/
def logTwoHigh : Float := Float.ofBits 0x3fe62e42fee00000

/-- What the upper part of `log 2` leaves over. -/
def logTwoLow : Float := Float.ofBits 0x3dea39ef35793c76

/-- `2 ^ exponent` for the exponents of normal numbers. -/
def powerOfTwo (exponent : Int) : Float :=
  Float.ofBits (UInt64.ofNat (exponent + 1023).toNat <<< 52)

/-- An integer as a number. -/
def ofInt (value : Int) : Float :=
  if value < 0 then -Float.ofNat value.natAbs else Float.ofNat value.natAbs

/-! ## The logarithm -/

/-- The polynomial in `s²` of the logarithm, its terms taken in pairs. -/
def logPolynomial (z : Float) : Float :=
  let z2 := z * z
  let z4 := z2 * z2
  let z6 := z4 * z2
  let first := z * Float.ofBits 0x3fe5555555555593
  let second := Float.ofBits 0x3fd999999997fa04 + z * Float.ofBits 0x3fd2492494229359
  let third := Float.ofBits 0x3fcc71c51d8e78af + z * Float.ofBits 0x3fc7466496cb03de
  let fourth := Float.ofBits 0x3fc39a09d078c69f + z * Float.ofBits 0x3fc2f112df3e5244
  first + z2 * second + z4 * third + z6 * fourth

/-- An argument of the logarithm after its reduction: `1 + x = 2 ^ exponent · (1 + rest)`, up to the
relative error `correction` of forming `1 + x`. -/
structure Reduced where
  exponent : Int
  rest : Float
  correction : Float
  /-- The rest is so small that two terms of its series suffice. -/
  tiny : Bool

/-- Reduces an argument of at least `√½ - 1`. -/
def reduce (number : Float) : Reduced :=
  let high : UInt64 := number.toBits >>> 32
  if high < 0x3fda827a ∨ 0x80000000 ≤ high ∧ high ≤ 0xbfd2bec3 then ⟨0, number, 0, false⟩
  else
    let large := decide (0x43400000 ≤ high ∧ high < 0x80000000)
    let raised := if large then number else 1 + number
    let exponent := ((raised.toBits >>> 52).toNat : Int) - 1023
    let lost := if large then 0
      else if 0 < exponent then 1 - (raised - number) else number - (raised - 1)
    let correction := if large then 0 else lost / raised
    let fraction := raised.toBits &&& 0xfffffffffffff
    let top := fraction >>> 32
    if top < 0x6a09e then
      let scaled := Float.ofBits (fraction ||| 0x3ff0000000000000)
      ⟨exponent, scaled - 1, correction, top == 0⟩
    else
      let scaled := Float.ofBits (fraction ||| 0x3fe0000000000000)
      ⟨exponent + 1, scaled - 1, correction, (0x100000 - top) >>> 2 == 0⟩

/-- The logarithm of a reduced argument. -/
def Reduced.log (reduced : Reduced) : Float :=
  let k := ofInt reduced.exponent
  let f := reduced.rest
  let half := 0.5 * f * f
  let low := k * logTwoLow + reduced.correction
  if reduced.tiny then
    if f == 0 then k * logTwoHigh + (reduced.correction + k * logTwoLow)
    else
      let series := half * (1 - 0.66666666666666666 * f)
      if reduced.exponent = 0 then f - series
      else k * logTwoHigh - ((series - low) - f)
  else
    let s := f / (2 + f)
    let tail := logPolynomial (s * s)
    if reduced.exponent = 0 then f - (half - s * (half + tail))
    else k * logTwoHigh - ((half - (s * (half + tail) + low)) - f)

/-- `log (1 + number)`. -/
def log1p (number : Float) : Float :=
  if number.isNaN then number
  else if number == -1 then -1 / 0
  else if number < -1 then 0 / 0
  else if number.isInf then number
  else if number.abs < powerOfTwo (-54) then number
  else if number.abs < powerOfTwo (-29) then number - number * number * 0.5
  else (reduce number).log

/-! ## The exponential -/

/-- The polynomial in `r² / 2` of the exponential, its terms taken in pairs. -/
def expPolynomial (h : Float) : Float :=
  let h2 := h * h
  let h4 := h2 * h2
  let first := 1 + h * Float.ofBits 0xbfa11111111110f4
  let second := Float.ofBits 0x3f5a01a019fe5585 + h * Float.ofBits 0xbf14ce199eaadbb7
  let third := Float.ofBits 0x3ed0cfca86e65239 + h * Float.ofBits 0xbe8afdb76e09c32d
  first + h2 * second + h4 * third

/-- The multiple of `log 2` nearest to a number, as a factor. -/
def logTwoFactor (number : Float) : Int :=
  let size := number.abs * Float.ofBits 0x3ff71547652b82fe
  let factor : Int :=
    if number.abs < 1.03972077083991796413 then 1 else ((size + 0.5).toUInt64.toNat : Int)
  if number < 0 then -factor else factor

/-- `2 ^ k · exp r - 1` for `r` with the rounding error `lost`. -/
def scaledExp (k : Int) (r lost : Float) : Float :=
  let half := 0.5 * r
  let square := r * half
  let sum := expPolynomial square
  let t := 3 - sum * half
  let e := square * ((sum - t) / (6 - r * t))
  if k = 0 then r - (r * e - square)
  else
    let e := (r * (e - lost) - lost) - square
    if k = -1 then 0.5 * (r - e) - 0.5
    else if k = 1 then
      if r < -0.25 then -2 * (e - (r + 0.5)) else 1 + 2 * (r - e)
    else if k ≤ -2 ∨ 56 < k then
      let raised := 1 - (e - r)
      if k = 1024 then raised * 2 * powerOfTwo 1023 - 1
      else raised * powerOfTwo k - 1
    else if k < 20 then ((1 - powerOfTwo (-k)) - (e - r)) * powerOfTwo k
    else ((r - (e + powerOfTwo (-k))) + 1) * powerOfTwo k

/-- `exp number - 1`. -/
def expm1 (number : Float) : Float :=
  if number.isNaN then number
  else if 709.782712893383973096 < number then 1 / 0
  else if number ≤ -38.81624221801758 then -1
  else if number.abs < powerOfTwo (-54) then number
  else if (number.abs.toBits >>> 32) ≤ 0x3fd62e42 then scaledExp 0 number 0
  else
    let k := logTwoFactor number
    let high := number - ofInt k * logTwoHigh
    let low := ofInt k * logTwoLow
    let r := high - low
    scaledExp k r ((high - r) - low)

end JobPool.Binary64
