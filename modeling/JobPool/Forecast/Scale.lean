/-
**Scales of measurement.**

The models of a worker's speed are written once, over any scale that can add, multiply and count,
and that has roots, logarithms and an unbounded value. The pool computes on the binary64 scale. The
same definitions can be read over exact numbers, where their laws are laws of arithmetic.
-/

import JobPool.Forecast.Logarithm

namespace JobPool

/-- A scale of numbers on which times are measured and modelled. -/
class Scale (α : Type) extends Add α, Sub α, Mul α, Div α, NatCast α where
  /-- The value beyond every other. -/
  unbounded : α
  /-- A value that is neither unbounded nor undefined. -/
  isBounded : α → Bool
  /-- The value itself above zero, and zero otherwise. -/
  clamp : α → α
  root : α → α
  /-- The logarithm of one plus the value. -/
  log1p : α → α
  /-- The exponential of the value less one. -/
  expm1 : α → α

namespace Binary64

/-- The larger of a number and zero; NaN counts as zero. -/
def clamp (number : Float) : Float := if number > 0 then number else 0

end Binary64

instance : Scale Float where
  natCast := Float.ofNat
  unbounded := 1 / 0
  isBounded := Float.isFinite
  clamp := Binary64.clamp
  root := Float.sqrt
  log1p := Binary64.log1p
  expm1 := Binary64.expm1

end JobPool
