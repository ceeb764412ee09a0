/-
**The order of the numbers that are not NaN.**

A NaN compares with nothing, not even with itself, and there are two zeros that are equal. Apart
from that the comparison is a total preorder: every other number has a rank by its side of zero, its
exponent and its mantissa, and numbers compare as their ranks do. Infinities are the first and the
last.

* `Binary64.rank` — the rank of a number;
* `Binary64.le_iff_rank_le`, `lt_iff_rank_lt` — comparison is comparison of ranks;
* `Binary64.lt_of_not_le`, `lt_of_lt_of_le` — the laws of a total preorder.
-/

import JobPool.Forecast.Scale
import Mathlib.Data.Prod.Lex

namespace JobPool.Binary64

open Float.Model (UnpackedFloat)
open Float.Model.UnpackedFloat (Sign)

/-- The rank of an unpacked number. On the negative side larger exponents and mantissas come
first. -/
def rankUnpacked : UnpackedFloat → Int ×ₗ Int ×ₗ Int
  | .infinity .negative => toLex (-2, toLex (0, 0))
  | .finite .negative mantissa exponent _ => toLex (-1, toLex (-exponent, -mantissa))
  | .zero _ | .notANumber => toLex (0, toLex (0, 0))
  | .finite .positive mantissa exponent _ => toLex (1, toLex (exponent, mantissa))
  | .infinity .positive => toLex (2, toLex (0, 0))

private theorem compare_sign :
    compare Sign.negative Sign.negative = .eq ∧ compare Sign.negative Sign.positive = .lt ∧
      compare Sign.positive Sign.negative = .gt ∧ compare Sign.positive Sign.positive = .eq :=
  ⟨rfl, rfl, rfl, rfl⟩

/-- Exponents are compared before mantissas. -/
private theorem isLE_compare_then {exponent exponent' : Int} {mantissa mantissa' : Nat} :
    ((compare exponent exponent').then (compare mantissa mantissa')).isLE = true ↔
      exponent < exponent' ∨ exponent = exponent' ∧ mantissa ≤ mantissa' := by
  rw [Ordering.isLE_then_iff_or, Int.compare_eq_lt, Int.compare_eq_eq, Nat.isLE_compare]

private theorem compare_then_eq_lt {exponent exponent' : Int} {mantissa mantissa' : Nat} :
    (compare exponent exponent').then (compare mantissa mantissa') = .lt ↔
      exponent < exponent' ∨ exponent = exponent' ∧ mantissa < mantissa' := by
  rw [Ordering.then_eq_lt, Int.compare_eq_lt, Int.compare_eq_eq, Nat.compare_eq_lt]

private theorem swap_compare_then {exponent exponent' : Int} {mantissa mantissa' : Nat} :
    ((compare exponent exponent').then (compare mantissa mantissa')).swap =
      (compare exponent' exponent).then (compare mantissa' mantissa) := by
  rw [Ordering.swap_then, Int.compare_swap, Nat.compare_swap]

section Unpacked

variable {first second : UnpackedFloat} (defined : first.isNaN = false)
  (defined' : second.isNaN = false)

include defined defined'

/-- Unpacked numbers compare as their ranks. -/
private theorem unpacked_le_iff :
    first.le second = true ↔ rankUnpacked first ≤ rankUnpacked second := by
  unfold UnpackedFloat.le
  rcases first with (_ | _) | _ | _ | ⟨(_ | _), mantissa, exponent, _⟩ <;> cases defined <;>
    rcases second with (_ | _) | _ | _ | ⟨(_ | _), mantissa', exponent', _⟩ <;> cases defined' <;>
    dsimp only [UnpackedFloat.compare, rankUnpacked] <;>
    simp [-Ordering.isLE_swap, compare_sign, Prod.Lex.toLex_le_toLex, swap_compare_then,
      isLE_compare_then]
  -- Two finite numbers below zero are left, where the order of the sizes is turned round.
  omega

private theorem unpacked_lt_iff :
    first.lt second = true ↔ rankUnpacked first < rankUnpacked second := by
  unfold UnpackedFloat.lt
  rcases first with (_ | _) | _ | _ | ⟨(_ | _), mantissa, exponent, _⟩ <;> cases defined <;>
    rcases second with (_ | _) | _ | _ | ⟨(_ | _), mantissa', exponent', _⟩ <;> cases defined' <;>
    dsimp only [UnpackedFloat.compare, rankUnpacked] <;>
    simp [compare_sign, Prod.Lex.toLex_lt_toLex, swap_compare_then, compare_then_eq_lt]
  omega

end Unpacked

/-- The rank of a number. -/
def rank (number : Float) : Int ×ₗ Int ×ₗ Int := rankUnpacked number.toModel.unpack

section Numbers

variable {first second third : Float} (defined : first.isNaN = false)
  (defined' : second.isNaN = false)

include defined defined'

/-- **Numbers that are not NaN compare as their ranks.** -/
theorem le_iff_rank_le : first ≤ second ↔ rank first ≤ rank second := by
  show first.le second = true ↔ _
  rw [Float.le, decide_eq_true_eq]
  exact unpacked_le_iff defined defined'

theorem lt_iff_rank_lt : first < second ↔ rank first < rank second := by
  show first.lt second = true ↔ _
  rw [Float.lt, decide_eq_true_eq]
  exact unpacked_lt_iff defined defined'

/-- Of two numbers that are not NaN one is at most the other. -/
theorem lt_of_not_le (greater : ¬ first ≤ second) : second < first := by
  rw [le_iff_rank_le defined defined', not_le] at greater
  exact (lt_iff_rank_lt defined' defined).mpr greater

theorem le_of_lt (less : first < second) : first ≤ second := by
  rw [lt_iff_rank_lt defined defined'] at less
  exact (le_iff_rank_le defined defined').mpr less.le

theorem lt_of_lt_of_le (defined'' : third.isNaN = false) (less : first < second)
    (least : second ≤ third) : first < third := by
  rw [lt_iff_rank_lt defined defined'] at less
  rw [le_iff_rank_le defined' defined''] at least
  exact (lt_iff_rank_lt defined defined'').mpr (less.trans_le least)

end Numbers

end JobPool.Binary64
