/-
**A trend is the exponentially weighted mean and variance of its samples.**

Every later sample takes the share `alpha` of the whole weight, and what was there before it shrinks
by the factor `1 - alpha`. The first sample is treated apart: it starts with all the weight and from
then on only loses. A trend keeps none of the samples, but its mean and its variance are those of
the weighted samples, although every sample moves the mean around which the earlier ones were
measured.

* `weight`, `weigh` — the weight of a sample by its place, and sums with these weights;
* `weigh_concat` — what one more sample does to every such sum;
* `weigh_one`, `weigh_shift` — all weights together, and squares around a moved centre;
* `Describes`, `Describes.add` — a trend says of its samples what the weights say, and still does
  after one more;
* `describes_follow` — so it is for all samples;
* `follow_mean_sub` — how far samples that are all the same bring the mean towards them;
* `weighted_mean_variance` — the closed form, and what follows from it for shares below one.
-/

import JobPool.Forecast.Model
import Mathlib.Algebra.BigOperators.Fin
import Mathlib.Algebra.Order.BigOperators.Group.Finset
import Mathlib.Algebra.Order.Field.Rat
import Mathlib.Algebra.Order.Ring.Abs
import Mathlib.Data.List.Induction
import Mathlib.Tactic.NormNum
import Mathlib.Tactic.Ring

namespace JobPool

/-- What holds of one sample, and still after each further one, holds of all samples. -/
@[elab_as_elim]
theorem samples_induction {α : Type} {motive : (samples : List α) → samples ≠ [] → Prop}
    (first : ∀ sample, motive [sample] (List.cons_ne_nil _ _))
    (later : ∀ samples sample nonempty, motive samples nonempty →
      motive (samples ++ [sample]) (List.append_ne_nil_of_left_ne_nil nonempty _))
    (samples : List α) (nonempty : samples ≠ []) : motive samples nonempty := by
  induction samples using List.reverseRecOn with
  | nil => exact absurd rfl nonempty
  | append_singleton samples sample hypothesis =>
    rcases eq_or_ne samples [] with rfl | earlier
    · exact first sample
    · exact later samples sample earlier (hypothesis earlier)

namespace Trend

section Exact

variable {K : Type} [Field K]

/-! ### Weights -/

/-- The weight of the sample at a place, counted from zero, among so many samples. -/
def weight (alpha : K) (length place : Nat) : K :=
  if place = 0 then (1 - alpha) ^ (length - 1) else alpha * (1 - alpha) ^ (length - (place + 1))

theorem weight_newest (alpha : K) {length : Nat} (positive : 0 < length) :
    weight alpha (length + 1) length = alpha := by
  rw [weight, if_neg positive.ne', Nat.sub_self, pow_zero, mul_one]

/-- **One more sample shrinks every earlier weight by the same factor.** -/
theorem weight_earlier (alpha : K) {length place : Nat} (earlier : place < length) :
    weight alpha (length + 1) place = (1 - alpha) * weight alpha length place := by
  have exponent (taken : Nat) (within : taken ≤ length) :
      (1 - alpha) ^ (length + 1 - taken) = (1 - alpha) * (1 - alpha) ^ (length - taken) := by
    rw [Nat.sub_add_comm within, pow_succ']
  unfold weight
  split
  · exact exponent 1 (Nat.one_le_of_lt earlier)
  · rw [exponent (place + 1) earlier]
    ring

/-- The sum of a measure over all samples, each with its weight. -/
def weigh (alpha : K) (samples : List K) (measure : K → K) : K :=
  ∑ place : Fin samples.length, weight alpha samples.length place * measure samples[place]

theorem weigh_singleton (alpha sample : K) (measure : K → K) :
    weigh alpha [sample] measure = measure sample := by
  simp [weigh, weight]

/-- **What one more sample does to a weighted sum.** -/
theorem weigh_concat (alpha : K) {samples : List K} (nonempty : samples ≠ []) (sample : K)
    (measure : K → K) :
    weigh alpha (samples ++ [sample]) measure =
      (1 - alpha) * weigh alpha samples measure + alpha * measure sample := by
  have length : samples.length + 1 = (samples ++ [sample]).length := by simp
  have positive : 0 < samples.length := List.length_pos_iff.mpr nonempty
  unfold weigh
  rw [← Fin.sum_congr' _ length, Fin.sum_univ_castSucc, Finset.mul_sum]
  congr 1
  · refine Finset.sum_congr rfl fun place _ => ?_
    simp [weight_earlier alpha place.isLt, mul_assoc]
  · simp [weight_newest alpha positive]

/-- All weights together are one. -/
theorem weigh_one (alpha : K) {samples : List K} (nonempty : samples ≠ []) :
    weigh alpha samples (fun _ => 1) = 1 := by
  induction samples, nonempty using samples_induction with
  | first sample => exact weigh_singleton alpha sample _
  | later samples sample nonempty hypothesis =>
    rw [weigh_concat alpha nonempty, hypothesis]
    ring

/-- **What a shift of the centre adds to the weighted squares.** -/
theorem weigh_shift (alpha centre shift : K) {samples : List K} (nonempty : samples ≠ []) :
    weigh alpha samples (fun sample => (sample - (centre + shift)) ^ 2) =
      weigh alpha samples (fun sample => (sample - centre) ^ 2) -
        2 * shift * (weigh alpha samples id - centre) + shift ^ 2 := by
  induction samples, nonempty using samples_induction with
  | first sample =>
    simp only [weigh_singleton, id]
    ring
  | later samples sample nonempty hypothesis =>
    simp only [weigh_concat alpha nonempty, hypothesis, id]
    ring

/-! ### One sample more -/

theorem add_first (alpha sample : K) : (empty alpha).add sample = ⟨alpha, 1, sample, 0⟩ := by
  simp [empty, add]

/-- A later sample takes its share of the mean, and of the squared deviations. -/
theorem add_later {trend : Trend K} (begun : trend.count ≠ 0) (sample : K) :
    trend.add sample =
      { alpha := trend.alpha
        count := trend.count + 1
        mean := trend.mean + trend.alpha * (sample - trend.mean)
        variance := (1 - trend.alpha) *
          (trend.variance + (sample - trend.mean) * (trend.alpha * (sample - trend.mean))) } := by
  rw [add, if_neg begun, Nat.cast_one]

/-- **What a trend says of its samples.** -/
structure Describes (trend : Trend K) (alpha : K) (samples : List K) : Prop where
  share : trend.alpha = alpha
  count : trend.count = samples.length
  mean : trend.mean = weigh alpha samples id
  variance : trend.variance = weigh alpha samples fun sample => (sample - trend.mean) ^ 2

theorem describes_first (alpha sample : K) :
    ((empty alpha).add sample).Describes alpha [sample] := by
  rw [add_first]
  exact ⟨rfl, rfl, by simp [weigh_singleton], by simp [weigh_singleton]⟩

theorem Describes.begun {trend : Trend K} {alpha : K} {samples : List K}
    (describes : trend.Describes alpha samples) (nonempty : samples ≠ []) : trend.count ≠ 0 := by
  rw [describes.count]
  exact (List.length_pos_iff.mpr nonempty).ne'

/-- **A trend that takes in a sample says of all samples what it said of the earlier ones.** -/
theorem Describes.add {trend : Trend K} {alpha : K} {samples : List K}
    (describes : trend.Describes alpha samples) (nonempty : samples ≠ []) (sample : K) :
    (trend.add sample).Describes alpha (samples ++ [sample]) := by
  have step := add_later (describes.begun nonempty) sample
  obtain ⟨share, count, mean, variance⟩ := describes
  rw [share] at step
  refine ⟨?_, ?_, ?_, ?_⟩
  · rw [step]
  · rw [step, count, List.length_append, List.length_singleton]
  · rw [step, weigh_concat alpha nonempty, ← mean, id]
    ring
  · -- the earlier samples are measured around the old mean, and deviate from it by nothing in sum
    rw [step, weigh_concat alpha nonempty, weigh_shift alpha _ _ nonempty, ← mean, ← variance]
    ring

/-! ### All samples -/

/-- The trend that has taken in some samples, one after the other. -/
def follow (trend : Trend K) (samples : List K) : Trend K := samples.foldl add trend

theorem follow_concat (trend : Trend K) (samples : List K) (sample : K) :
    trend.follow (samples ++ [sample]) = (trend.follow samples).add sample := by
  rw [follow, List.foldl_append]
  rfl

/-- **A trend describes all samples that it has taken in.** -/
theorem describes_follow (alpha : K) {samples : List K} (nonempty : samples ≠ []) :
    ((empty alpha).follow samples).Describes alpha samples := by
  induction samples, nonempty using samples_induction with
  | first sample => exact describes_first alpha sample
  | later samples sample nonempty hypothesis =>
    rw [follow_concat]
    exact hypothesis.add nonempty sample

/-- Samples that are all the same draw the mean towards them, each by the same factor. -/
theorem follow_mean_sub {trend : Trend K} (begun : trend.count ≠ 0) (sample : K) (times : Nat) :
    (trend.follow (List.replicate times sample)).mean - sample =
      (1 - trend.alpha) ^ times * (trend.mean - sample) := by
  induction times generalizing trend with
  | zero => simp [follow]
  | succ times hypothesis =>
    have step := add_later begun sample
    have later : (trend.add sample).count ≠ 0 := by
      rw [step]
      exact Nat.succ_ne_zero _
    rw [follow, List.replicate_succ, List.foldl_cons, ← follow, hypothesis later, step, pow_succ]
    ring

end Exact

/-! ### Shares below one -/

section Ordered

variable {K : Type} [Field K] [LinearOrder K] [IsStrictOrderedRing K] {alpha : K}

theorem weight_pos (positive : 0 < alpha) (below : alpha < 1) (length place : Nat) :
    0 < weight alpha length place := by
  have kept : 0 < 1 - alpha := sub_pos.mpr below
  unfold weight
  split
  · exact pow_pos kept _
  · exact mul_pos positive (pow_pos kept _)

theorem weigh_nonneg (positive : 0 < alpha) (below : alpha < 1) (samples : List K)
    {measure : K → K} (nonneg : ∀ sample, 0 ≤ measure sample) : 0 ≤ weigh alpha samples measure :=
  Finset.sum_nonneg fun place _ =>
    mul_nonneg (weight_pos positive below samples.length place).le (nonneg samples[place])

end Ordered

/-! ### Over the rational numbers -/

/-- **The running mean and variance of a trend are those of the weighted samples.** With at least
one sample the weights add up to one, the mean is the weighted mean, and the stored variance the
weighted mean of the squared deviations from it, whatever the share of a sample. With a share
between zero and one the variance is never negative, and further samples that are all the same
shrink the distance of the mean from them by the same factor each. -/
theorem weighted_mean_variance (alpha : ℚ) (samples : List ℚ) (nonempty : samples ≠ []) :
    let trend : Trend ℚ := samples.foldl Trend.add (Trend.empty alpha)
    let weights : Fin samples.length → ℚ := fun place => weight alpha samples.length place
    ∑ place, weights place = 1 ∧
    trend.mean = ∑ place, weights place * samples[place] ∧
    trend.variance = ∑ place, weights place * (samples[place] - trend.mean) ^ 2 ∧
    (∀ (sample : ℚ) (times : Nat),
      ((List.replicate times sample).foldl Trend.add trend).mean - sample =
        (1 - alpha) ^ times * (trend.mean - sample)) ∧
    (0 < alpha → alpha < 1 →
      0 ≤ trend.variance ∧
      ∀ (sample : ℚ) (times : Nat),
        |((List.replicate times sample).foldl Trend.add trend).mean - sample| =
          (1 - alpha) ^ times * |trend.mean - sample|) := by
  intro trend weights
  have describes : trend.Describes alpha samples := describes_follow alpha nonempty
  have drawn (sample : ℚ) (times : Nat) :
      ((List.replicate times sample).foldl Trend.add trend).mean - sample =
        (1 - alpha) ^ times * (trend.mean - sample) := by
    rw [← describes.share]
    exact follow_mean_sub (describes.begun nonempty) sample times
  refine ⟨?_, describes.mean, describes.variance, drawn, fun positive below => ⟨?_, ?_⟩⟩
  · have all := weigh_one alpha nonempty
    simpa only [weigh, mul_one] using all
  · rw [describes.variance]
    exact weigh_nonneg positive below samples fun sample => sq_nonneg _
  · intro sample times
    rw [drawn, abs_mul, abs_of_pos (pow_pos (sub_pos.mpr below) times)]

/-- A share of one half for each of two samples of ten after one of zero: the weights are a quarter,
a quarter and a half, the mean is seven and a half, and two samples of twelve leave a quarter of its
distance from them. -/
theorem weighted_mean_variance_halves :
    let samples : List ℚ := [0, 10, 10]
    let trend : Trend ℚ := samples.foldl Trend.add (Trend.empty (1 / 2))
    samples ≠ [] ∧ (0 : ℚ) < 1 / 2 ∧ (1 / 2 : ℚ) < 1 ∧
      trend.mean = 15 / 2 ∧ trend.variance = 75 / 4 ∧ 0 ≤ trend.variance ∧
      |((List.replicate 2 12).foldl Trend.add trend).mean - 12| = 9 / 8 := by
  intro samples trend
  have nonempty : samples ≠ [] := List.cons_ne_nil _ _
  have positive : (0 : ℚ) < 1 / 2 := by norm_num
  have below : (1 / 2 : ℚ) < 1 := by norm_num
  obtain ⟨_, mean, variance, _, ordered⟩ := weighted_mean_variance (1 / 2) samples nonempty
  obtain ⟨nonneg, drawn⟩ := ordered positive below
  have mean : trend.mean = 15 / 2 := by
    refine mean.trans ((Fin.sum_univ_three _).trans ?_)
    norm_num [samples, weight]
  have variance : trend.variance = 75 / 4 := by
    refine variance.trans ((Fin.sum_univ_three _).trans ?_)
    rw [mean]
    norm_num [samples, weight]
  refine ⟨nonempty, positive, below, mean, variance, nonneg, (drawn 12 2).trans ?_⟩
  rw [mean]
  norm_num [abs_of_neg]

end Trend

end JobPool
