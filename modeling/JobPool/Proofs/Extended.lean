/-
**Exact numbers with an infinite value.**

Read over exact numbers, the models of completion times need one value more: a spread that is not
known yet is unbounded. Whatever has no value in this arithmetic — a difference of two infinite
values, a quotient by zero, the root or the logarithm of a negative number — is undefined, and an
undefined value is below nothing and above nothing.

* `Curve` — a logarithm of one plus a number with its inverse, as far as the models rely on them;
* `Extended` — numbers, the infinite and the undefined value, and their arithmetic as a `Scale`;
* `number_add`, `number_sub`, `number_mul`, `number_div` — between numbers it is that of the reals;
* `ofOption` — a number that may not be known, and what sums and differences make of it.
-/

import JobPool.Forecast.Scale
import Mathlib.Analysis.SpecialFunctions.Log.Basic
import Mathlib.Analysis.Real.Sqrt

namespace JobPool

/-! ### Logarithmic curves -/

/-- **A logarithm of one plus a number, and its inverse.** The two are inverse to each other and
increase on the numbers that are not negative; below zero only the inverse is needed, and must not
decrease there. -/
structure Curve where
  log1p : ℝ → ℝ
  expm1 : ℝ → ℝ
  log1p_strictMonoOn : StrictMonoOn log1p (Set.Ici 0)
  expm1_strictMonoOn : StrictMonoOn expm1 (Set.Ici 0)
  expm1_monotone : Monotone expm1
  log1p_zero : log1p 0 = 0
  expm1_zero : expm1 0 = 0
  expm1_log1p : ∀ {sample : ℝ}, 0 ≤ sample → expm1 (log1p sample) = sample
  log1p_expm1 : ∀ {estimate : ℝ}, 0 ≤ estimate → log1p (expm1 estimate) = estimate

namespace Curve

theorem log1p_nonneg (curve : Curve) {sample : ℝ} (nonneg : 0 ≤ sample) :
    0 ≤ curve.log1p sample := by
  have above := curve.log1p_strictMonoOn.monotoneOn Set.self_mem_Ici nonneg nonneg
  rwa [curve.log1p_zero] at above

theorem expm1_nonneg (curve : Curve) {estimate : ℝ} (nonneg : 0 ≤ estimate) :
    0 ≤ curve.expm1 estimate := by
  have above := curve.expm1_monotone nonneg
  rwa [curve.expm1_zero] at above

/-- The natural logarithm and the exponential function. -/
noncomputable def natural : Curve where
  log1p sample := Real.log (1 + sample)
  expm1 estimate := Real.exp estimate - 1
  log1p_strictMonoOn := fun _ low _ _ less =>
    Real.log_lt_log (add_pos_of_pos_of_nonneg one_pos low) (add_lt_add_right less 1)
  expm1_strictMonoOn := fun _ _ _ _ less => sub_lt_sub_right (Real.exp_lt_exp.mpr less) 1
  expm1_monotone := fun _ _ le => sub_le_sub_right (Real.exp_le_exp.mpr le) 1
  log1p_zero := by simp
  expm1_zero := by simp
  expm1_log1p := fun nonneg => by
    rw [Real.exp_log (add_pos_of_pos_of_nonneg one_pos nonneg), add_sub_cancel_left]
  log1p_expm1 := fun _ => by rw [add_sub_cancel, Real.log_exp]

end Curve

/-! ### Extended numbers -/

/-- A number, the value beyond every number, or no value at all. The curve is the one by which the
scale of these values takes logarithms. -/
inductive Extended (curve : Curve) where
  | number (value : ℝ)
  | infinite
  | undefined

namespace Extended

noncomputable section

variable {curve : Curve}

protected def add : Extended curve → Extended curve → Extended curve
  | number left, number right => number (left + right)
  | number _, infinite | infinite, number _ | infinite, infinite => infinite
  | _, _ => undefined

protected def sub : Extended curve → Extended curve → Extended curve
  | number left, number right => number (left - right)
  | infinite, number _ => infinite
  | _, _ => undefined

protected def mul : Extended curve → Extended curve → Extended curve
  | number left, number right => number (left * right)
  | number factor, infinite | infinite, number factor => if 0 < factor then infinite else undefined
  | infinite, infinite => infinite
  | _, _ => undefined

protected def div : Extended curve → Extended curve → Extended curve
  | number left, number right => if right = 0 then undefined else number (left / right)
  | number _, infinite => number 0
  | infinite, number divisor => if 0 < divisor then infinite else undefined
  | _, _ => undefined

def isNumber : Extended curve → Bool
  | number _ => true
  | infinite | undefined => false

/-- The value itself above zero, and zero otherwise, also for an undefined one. -/
def clamp : Extended curve → Extended curve
  | number value => number (max value 0)
  | infinite => infinite
  | undefined => number 0

def root : Extended curve → Extended curve
  | number value => if value < 0 then undefined else number (Real.sqrt value)
  | infinite => infinite
  | undefined => undefined

def log1p : Extended curve → Extended curve
  | number value => if value < 0 then undefined else number (curve.log1p value)
  | infinite => infinite
  | undefined => undefined

/-- On numbers the inverse of the logarithm takes every value that is not negative, so that beyond
them only the infinite value is left for it. -/
def expm1 : Extended curve → Extended curve
  | number value => number (curve.expm1 value)
  | infinite => infinite
  | undefined => undefined

instance : Scale (Extended curve) where
  add := Extended.add
  sub := Extended.sub
  mul := Extended.mul
  div := Extended.div
  natCast count := number count
  unbounded := infinite
  isBounded := isNumber
  clamp := clamp
  root := root
  log1p := log1p
  expm1 := expm1

/-- Every number is below the infinite value; an undefined value compares with nothing. -/
protected def Le : Extended curve → Extended curve → Prop
  | number left, number right => left ≤ right
  | number _, infinite | infinite, infinite => True
  | _, _ => False

instance : LE (Extended curve) := ⟨Extended.Le⟩

/-- A number that may not be known, and is infinite then. -/
def ofOption : Option ℝ → Extended curve
  | none => infinite
  | some value => number value

end

/-! ### Numbers among extended ones -/

section Laws

variable {curve : Curve}

@[simp]
theorem number_add (left right : ℝ) :
    (number left + number right : Extended curve) = number (left + right) := rfl

@[simp]
theorem number_sub (left right : ℝ) :
    (number left - number right : Extended curve) = number (left - right) := rfl

@[simp]
theorem number_mul (left right : ℝ) :
    (number left * number right : Extended curve) = number (left * right) := rfl

theorem number_div (left : ℝ) {right : ℝ} (defined : right ≠ 0) :
    (number left / number right : Extended curve) = number (left / right) := if_neg defined

@[simp]
theorem natCast_eq (count : Nat) : (count : Extended curve) = number count := rfl

@[simp]
theorem number_add_infinite (left : ℝ) :
    (number left + infinite : Extended curve) = infinite := rfl

@[simp]
theorem infinite_sub_number (right : ℝ) :
    (infinite - number right : Extended curve) = infinite := rfl

theorem ofOption_eq_infinite {value? : Option ℝ} :
    (ofOption value? : Extended curve) = infinite ↔ value? = none := by
  cases value? <;> simp [ofOption]

theorem add_ofOption_eq_infinite (left : ℝ) {right? : Option ℝ} :
    (number left + ofOption right? : Extended curve) = infinite ↔ right? = none := by
  cases right? <;> simp [ofOption]

/-- A known number is given back by a difference, and so is an infinite value. -/
theorem add_ofOption_sub (left : ℝ) (right? : Option ℝ) :
    (number left + ofOption right? - number left : Extended curve) = ofOption right? := by
  cases right? <;> simp [ofOption]

theorem root_number {value : ℝ} (nonneg : 0 ≤ value) :
    Scale.root (number value : Extended curve) = number (Real.sqrt value) := if_neg nonneg.not_gt

@[simp]
theorem number_le_number {left right : ℝ} :
    (number left : Extended curve) ≤ number right ↔ left ≤ right := Iff.rfl

@[simp]
theorem number_le_infinite (left : ℝ) : (number left : Extended curve) ≤ infinite := trivial

end Laws

end Extended

end JobPool
