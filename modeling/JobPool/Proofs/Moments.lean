/-
**Running moments are exact.**

A model that weighs all samples alike never looks back at them: each sample moves the mean by its
share, and adds to the sum of squares the product of its deviations from the mean before and after
the move. Over exact numbers nothing is lost that way. Around the new mean every old sample has moved
too, but the old deviations add up to nothing, so all of them together only cost the square of the
move, once for each.

* `scatter`, `scatter_shift` — the squared deviations from any centre, and what a shift of the
  centre adds to them;
* `Summarizes`, `Summarizes.add` — a model says of its samples what their sum and their scatter say,
  and still does after one more;
* `summarizes_collect` — so it is for all samples;
* `mean_variance_exact` — the mean, the sum of squares and the variance, in any order of the samples.
-/

import JobPool.Forecast.Model
import Mathlib.Algebra.BigOperators.Group.List.Basic
import Mathlib.Algebra.Order.BigOperators.Group.List
import Mathlib.Algebra.Order.Field.Rat
import Mathlib.Data.List.Induction
import Mathlib.Tactic.FieldSimp
import Mathlib.Tactic.Linarith
import Mathlib.Tactic.Ring

namespace JobPool.Moments

section Exact

variable {K : Type} [Field K]

/-! ### Deviations -/

/-- The sum of the squared deviations from a centre. -/
def scatter (samples : List K) (centre : K) : K :=
  (samples.map fun sample => (sample - centre) ^ 2).sum

/-- **What a shift of the centre adds to the scatter.** -/
theorem scatter_shift (samples : List K) (centre shift : K) :
    scatter samples (centre + shift) =
      scatter samples centre - 2 * shift * (samples.sum - samples.length * centre) +
        samples.length * shift ^ 2 := by
  induction samples with
  | nil => simp [scatter]
  | cons sample rest hypothesis =>
    unfold scatter at hypothesis ⊢
    rw [List.map_cons, List.map_cons, List.sum_cons, List.sum_cons, List.sum_cons, hypothesis,
      List.length_cons, Nat.cast_succ]
    ring

theorem scatter_concat (samples : List K) (sample centre : K) :
    scatter (samples ++ [sample]) centre = scatter samples centre + (sample - centre) ^ 2 := by
  simp [scatter]

theorem scatter_perm {samples other : List K} (same : samples.Perm other) (centre : K) :
    scatter samples centre = scatter other centre :=
  (same.map _).sum_eq

/-! ### One sample more -/

/-- **What a model says of its samples.** -/
structure Summarizes (moments : Moments K) (samples : List K) : Prop where
  count : moments.count = samples.length
  total : samples.length * moments.mean = samples.sum
  squares : moments.squares = scatter samples moments.mean

theorem summarizes_empty : Summarizes (empty : Moments K) [] :=
  ⟨rfl, by simp [empty], by simp [empty, scatter]⟩

variable [CharZero K]

/-- **A model that takes in a sample says of all samples what it said of the earlier ones.** -/
theorem Summarizes.add {moments : Moments K} {samples : List K}
    (summarizes : moments.Summarizes samples) (sample : K) :
    (moments.add sample).Summarizes (samples ++ [sample]) := by
  obtain ⟨count, total, squares⟩ := summarizes
  have positive : (samples.length : K) + 1 ≠ 0 := Nat.cast_add_one_ne_zero samples.length
  have moved : (moments.add sample).mean =
      moments.mean + (sample - moments.mean) / (samples.length + 1) := by
    rw [Moments.add, count, Nat.cast_succ]
  refine ⟨?_, ?_, ?_⟩
  · rw [Moments.add, count, List.length_append, List.length_singleton]
  · rw [moved, List.length_append, List.length_singleton, Nat.cast_succ, List.sum_append,
      List.sum_singleton, ← total]
    field_simp
    ring
  · rw [scatter_concat, moved, scatter_shift, ← total, ← squares, Moments.add, count,
      Nat.cast_succ]
    field_simp
    ring

/-! ### All samples -/

/-- The model that has taken in some samples, one after the other. -/
def collect (samples : List K) : Moments K := samples.foldl add empty

omit [CharZero K] in
theorem collect_concat (samples : List K) (sample : K) :
    collect (samples ++ [sample]) = (collect samples).add sample := by
  rw [collect, List.foldl_append]
  rfl

/-- **A model summarizes all samples that it has taken in.** -/
theorem summarizes_collect (samples : List K) : (collect samples).Summarizes samples := by
  induction samples using List.reverseRecOn with
  | nil => exact summarizes_empty
  | append_singleton samples sample hypothesis =>
    rw [collect_concat]
    exact hypothesis.add sample

theorem mean_collect {samples : List K} (nonempty : samples ≠ []) :
    (collect samples).mean = samples.sum / samples.length := by
  have positive : (samples.length : K) ≠ 0 :=
    Nat.cast_ne_zero.mpr (List.length_pos_iff.mpr nonempty).ne'
  rw [← (summarizes_collect samples).total, mul_div_cancel_left₀ _ positive]

/-- Models of the same samples are the same, whatever their order. -/
theorem collect_perm {samples other : List K} (same : samples.Perm other) :
    collect other = collect samples := by
  rcases eq_or_ne samples [] with rfl | nonempty
  · rw [same.nil_eq]
  have count : (collect other).count = (collect samples).count := by
    rw [(summarizes_collect other).count, (summarizes_collect samples).count, same.length_eq]
  have mean : (collect other).mean = (collect samples).mean := by
    rw [mean_collect nonempty, mean_collect fun none => nonempty (List.perm_nil.mp (none ▸ same)),
      same.length_eq, same.sum_eq]
  have squares : (collect other).squares = (collect samples).squares := by
    rw [(summarizes_collect other).squares, (summarizes_collect samples).squares, mean,
      scatter_perm same]
  calc collect other
      = ⟨(collect other).count, (collect other).mean, (collect other).squares⟩ := rfl
    _ = collect samples := by rw [count, mean, squares]

end Exact

/-! ### Over the rational numbers -/

/-- **The running mean and the running variance are exact.** A model that has taken in at least one
sample has their arithmetic mean and the sum of their squared deviations from it, which is never
negative; with at least two samples its variance is that sum over the number of samples less one.
The samples in any other order lead to the same model. -/
theorem mean_variance_exact (samples : List ℚ) (nonempty : samples ≠ []) :
    let moments : Moments ℚ := samples.foldl Moments.add Moments.empty
    moments.count = samples.length ∧
    moments.mean = samples.sum / samples.length ∧
    moments.squares = (samples.map fun sample => (sample - moments.mean) ^ 2).sum ∧
    0 ≤ moments.squares ∧
    moments.variance? =
      (if samples.length < 2 then none else some (moments.squares / (samples.length - 1))) ∧
    ∀ other, samples.Perm other → other.foldl Moments.add Moments.empty = moments := by
  intro moments
  have summarizes : moments.Summarizes samples := summarizes_collect samples
  refine ⟨summarizes.count, mean_collect nonempty, summarizes.squares, ?_, ?_,
    fun other same => collect_perm same⟩
  · rw [summarizes.squares]
    refine List.sum_nonneg fun square member => ?_
    obtain ⟨sample, _, rfl⟩ := List.mem_map.mp member
    exact sq_nonneg _
  · have positive : 1 ≤ samples.length := List.length_pos_iff.mpr nonempty
    rw [variance?, summarizes.count, Nat.cast_sub positive, Nat.cast_one]

/-- Four samples of ten after one of zero: the mean is eight and the sample variance twenty, also
with the zero in the middle. -/
theorem mean_variance_exact_seeded :
    let samples : List ℚ := [0, 10, 10, 10, 10]
    let moments : Moments ℚ := samples.foldl Moments.add Moments.empty
    samples ≠ [] ∧ moments.mean = 8 ∧ moments.squares = 80 ∧ moments.variance? = some 20 ∧
      [10, 10, 0, 10, 10].foldl Moments.add Moments.empty = moments := by
  intro samples moments
  have nonempty : samples ≠ [] := List.cons_ne_nil _ _
  obtain ⟨_, mean, squares, _, variance, reordered⟩ := mean_variance_exact samples nonempty
  have mean : moments.mean = 8 := mean.trans (by norm_num [samples])
  have squares : moments.squares = 80 := by
    rw [squares, mean]
    norm_num [samples]
  refine ⟨nonempty, mean, squares, variance.trans ?_, reordered _ (by decide)⟩
  rw [squares]
  norm_num [samples]

end JobPool.Moments
