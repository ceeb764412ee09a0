/-
**Every model estimates within its samples.**

A model is one of the two running summaries under any number of logarithms. Over exact numbers all
obey the same laws: the average lies between the least and the greatest sample, the high estimate is
no less than the average, and both the high estimate and the deviation are unbounded as long as
there are fewer than two samples. Samples that are all the same are estimated without any doubt.

Two numbers stand behind the answers of a model, its mean and its margin. The margin of a summary is
the root of its variance. A logarithm carries mean and margin over to the scale of the samples, and
its clamps never touch them, since no sample is negative: only a likely value may need a clamp.

* `Amid`, `Amid.moved` — a mean amid its samples, and still when a further sample draws it;
* `Within`, `Within.root`, `Within.expm1` — what the samples say of a mean and a margin;
* `Answers`, `Answers.log` — what a mean and a margin say of the answers of a model;
* `Untrained.answers_train` — behind every model stand a mean and a margin within its samples;
* `estimates_within_samples` — the laws.
-/

import JobPool.Proofs.Extended
import JobPool.Proofs.Moments
import JobPool.Proofs.Trends

namespace JobPool

open Extended

/-! ### Amid the samples -/

/-- A value with samples on either side of it. -/
structure Amid (samples : List ℝ) (value : ℝ) : Prop where
  least : ∃ sample ∈ samples, sample ≤ value
  greatest : ∃ sample ∈ samples, value ≤ sample

namespace Amid

variable {samples : List ℝ} {value : ℝ}

theorem singleton (sample : ℝ) : Amid [sample] sample :=
  ⟨⟨sample, List.mem_singleton_self _, le_rfl⟩, ⟨sample, List.mem_singleton_self _, le_rfl⟩⟩

/-- **A value that a further sample draws by a part of the way stays amid the samples.** -/
theorem moved (amid : Amid samples value) {share : ℝ} (nonneg : 0 ≤ share) (atMost : share ≤ 1)
    (sample : ℝ) : Amid (samples ++ [sample]) (value + share * (sample - value)) := by
  obtain ⟨⟨low, lowMem, lowLe⟩, ⟨high, highMem, leHigh⟩⟩ := amid
  have new : sample ∈ samples ++ [sample] := List.mem_append_right _ (List.mem_singleton_self _)
  -- the move is towards the new sample and not beyond it, so one side is kept by an old sample
  rcases le_total sample value with below | above
  · have down : share * (sample - value) ≤ 0 :=
      mul_nonpos_of_nonneg_of_nonpos nonneg (sub_nonpos.mpr below)
    have short : sample - value ≤ share * (sample - value) := by nlinarith
    exact ⟨⟨sample, new, by linarith⟩, ⟨high, List.mem_append_left _ highMem, by linarith⟩⟩
  · have up : 0 ≤ share * (sample - value) := mul_nonneg nonneg (sub_nonneg.mpr above)
    have short : share * (sample - value) ≤ sample - value := by nlinarith
    exact ⟨⟨low, List.mem_append_left _ lowMem, by linarith⟩, ⟨sample, new, by linarith⟩⟩

/-- Amid samples that are all the same there is only one value. -/
theorem eq_of_same (amid : Amid samples value) {same : ℝ}
    (equal : ∀ sample ∈ samples, sample = same) : value = same := by
  obtain ⟨⟨low, lowMem, lowLe⟩, ⟨high, highMem, leHigh⟩⟩ := amid
  rw [equal low lowMem] at lowLe
  rw [equal high highMem] at leHigh
  exact le_antisymm leHigh lowLe

theorem nonneg (amid : Amid samples value) (nonneg : ∀ sample ∈ samples, 0 ≤ sample) :
    0 ≤ value := by
  obtain ⟨low, lowMem, lowLe⟩ := amid.least
  exact (nonneg low lowMem).trans lowLe

end Amid

/-! ### Means and margins -/

/-- **What some samples say of a mean and a margin.** The mean lies amid them; the margin is known
from the second sample on, is never negative, and vanishes if no sample deviates from the mean. -/
structure Within (samples : List ℝ) (mean : ℝ) (margin? : Option ℝ) : Prop where
  amid : Amid samples mean
  unknown : margin? = none ↔ samples.length < 2
  nonneg : ∀ margin ∈ margin?, 0 ≤ margin
  still : ∀ margin ∈ margin?, (∀ sample ∈ samples, sample = mean) → margin = 0

namespace Within

variable {samples : List ℝ} {mean : ℝ}

theorem few (amid : Amid samples mean) (few : samples.length < 2) : Within samples mean none :=
  ⟨amid, iff_of_true rfl few, nofun, nofun⟩

theorem many (amid : Amid samples mean) (many : 2 ≤ samples.length) {margin : ℝ}
    (nonneg : 0 ≤ margin) (still : (∀ sample ∈ samples, sample = mean) → margin = 0) :
    Within samples mean (some margin) :=
  ⟨amid, iff_of_false nofun many.not_gt, fun _ known => Option.some.inj known ▸ nonneg,
    fun _ known same => Option.some.inj known ▸ still same⟩

/-- Samples that are all the same leave no doubt about the mean and the margin. -/
theorem eq_of_same {margin? : Option ℝ} (within : Within samples mean margin?)
    (many : 2 ≤ samples.length) {same : ℝ} (equal : ∀ sample ∈ samples, sample = same) :
    mean = same ∧ margin? = some 0 := by
  have mean : mean = same := within.amid.eq_of_same equal
  have known : margin? ≠ none := fun absent => many.not_gt (within.unknown.mp absent)
  obtain ⟨margin, known⟩ := Option.ne_none_iff_exists'.mp known
  refine ⟨mean, known.trans (congrArg some ?_)⟩
  exact within.still margin known fun sample mem => (equal sample mem).trans mean.symm

/-- The root of a variance is a margin. -/
theorem root {variance? : Option ℝ} (within : Within samples mean variance?) :
    Within samples mean (variance?.map Real.sqrt) := by
  refine ⟨within.amid, by rw [Option.map_eq_none_iff, within.unknown],
    Option.forall_mem_map.mpr fun variance _ => Real.sqrt_nonneg variance,
    Option.forall_mem_map.mpr fun variance known same => ?_⟩
  rw [within.still variance known same, Real.sqrt_zero]

/-- **A mean and a margin of the logarithms, carried over to the samples themselves.** -/
theorem expm1 (curve : Curve) {margin? : Option ℝ}
    (within : Within (samples.map curve.log1p) mean margin?)
    (nonneg : ∀ sample ∈ samples, 0 ≤ sample) :
    Within samples (curve.expm1 mean)
      (margin?.map fun margin => curve.expm1 (mean + margin) - curve.expm1 mean) := by
  have back (sample : ℝ) (mem : sample ∈ samples) : curve.expm1 (curve.log1p sample) = sample :=
    curve.expm1_log1p (nonneg sample mem)
  have positive : 0 ≤ mean := within.amid.nonneg <|
    List.forall_mem_map.mpr fun sample mem => curve.log1p_nonneg (nonneg sample mem)
  refine ⟨⟨?_, ?_⟩, by rw [Option.map_eq_none_iff, within.unknown, List.length_map],
    Option.forall_mem_map.mpr fun margin known => ?_,
    Option.forall_mem_map.mpr fun margin known same => ?_⟩
  · obtain ⟨_, member, le⟩ := within.amid.least
    obtain ⟨sample, mem, rfl⟩ := List.mem_map.mp member
    exact ⟨sample, mem, (back sample mem).ge.trans (curve.expm1_monotone le)⟩
  · obtain ⟨_, member, le⟩ := within.amid.greatest
    obtain ⟨sample, mem, rfl⟩ := List.mem_map.mp member
    exact ⟨sample, mem, (curve.expm1_monotone le).trans_eq (back sample mem)⟩
  · have above : mean ≤ mean + margin := le_add_of_nonneg_right (within.nonneg margin known)
    exact sub_nonneg.mpr (curve.expm1_monotone above)
  · have logarithms : ∀ logarithm ∈ samples.map curve.log1p, logarithm = mean :=
      List.forall_mem_map.mpr fun sample mem => by
        rw [same sample mem, curve.log1p_expm1 positive]
    rw [within.still margin known logarithms, add_zero, sub_self]

end Within

namespace Moments

theorem amid_collect {samples : List ℝ} (nonempty : samples ≠ []) :
    Amid samples (collect samples).mean := by
  induction samples, nonempty using samples_induction with
  | first sample =>
    have mean : (collect [sample]).mean = sample := by simp [collect, add, empty]
    rw [mean]
    exact Amid.singleton sample
  | later samples sample nonempty hypothesis =>
    have mean : (collect (samples ++ [sample])).mean =
        (collect samples).mean + 1 / (samples.length + 1) * (sample - (collect samples).mean) := by
      rw [collect_concat, add, (summarizes_collect samples).count, Nat.cast_succ]
      ring
    rw [mean]
    refine hypothesis.moved (by positivity) ?_ sample
    exact div_le_one_of_le₀ (le_add_of_nonneg_left (Nat.cast_nonneg _)) (by positivity)

theorem scatter_nonneg (samples : List ℝ) (centre : ℝ) : 0 ≤ scatter samples centre := by
  refine List.sum_nonneg fun square member => ?_
  obtain ⟨sample, _, rfl⟩ := List.mem_map.mp member
  exact sq_nonneg _

theorem scatter_same {samples : List ℝ} {centre : ℝ} (same : ∀ sample ∈ samples, sample = centre) :
    scatter samples centre = 0 := by
  refine List.sum_eq_zero fun square member => ?_
  obtain ⟨sample, mem, rfl⟩ := List.mem_map.mp member
  rw [same sample mem, sub_self, zero_pow two_ne_zero]

theorem within_collect {samples : List ℝ} (nonempty : samples ≠ []) :
    Within samples (collect samples).mean (collect samples).variance? := by
  have summarizes := summarizes_collect samples
  rcases lt_or_ge samples.length 2 with few | many
  · rw [variance?_few (summarizes.count ▸ few)]
    exact Within.few (amid_collect nonempty) few
  · rw [variance?_many (summarizes.count ▸ many), summarizes.squares]
    refine Within.many (amid_collect nonempty) many ?_ fun same => ?_
    · exact div_nonneg (scatter_nonneg samples _) (Nat.cast_nonneg _)
    · rw [scatter_same same, zero_div]

end Moments

namespace Trend

theorem amid_follow {alpha : ℝ} (positive : 0 < alpha) (below : alpha < 1) {samples : List ℝ}
    (nonempty : samples ≠ []) : Amid samples ((empty alpha).follow samples).mean := by
  induction samples, nonempty using samples_induction with
  | first sample =>
    rw [follow, List.foldl_cons, List.foldl_nil, add_first]
    exact Amid.singleton sample
  | later samples sample nonempty hypothesis =>
    have describes := describes_follow alpha nonempty
    rw [follow_concat, add_later (describes.begun nonempty), describes.share]
    exact hypothesis.moved positive.le below.le sample

theorem weigh_eq_zero (alpha : ℝ) {samples : List ℝ} {measure : ℝ → ℝ}
    (zero : ∀ sample ∈ samples, measure sample = 0) : weigh alpha samples measure = 0 :=
  Finset.sum_eq_zero fun place _ => by
    rw [zero samples[place] (List.getElem_mem place.isLt), mul_zero]

theorem within_follow {alpha : ℝ} (positive : 0 < alpha) (below : alpha < 1) {samples : List ℝ}
    (nonempty : samples ≠ []) :
    Within samples ((empty alpha).follow samples).mean
      ((empty alpha).follow samples).variance? := by
  have describes := describes_follow alpha nonempty
  have amid := amid_follow positive below nonempty
  rcases lt_or_ge samples.length 2 with few | many
  · rw [variance?_few (describes.count ▸ few)]
    exact Within.few amid few
  · rw [variance?_many (describes.count ▸ many), describes.variance]
    refine Within.many amid many ?_ fun same => ?_
    · exact weigh_nonneg positive below samples fun sample => sq_nonneg _
    · refine weigh_eq_zero alpha fun sample mem => ?_
      rw [same sample mem, sub_self, zero_pow two_ne_zero]

end Trend

/-! ### What a model answers -/

variable {curve : Curve}

/-- Exact moments, taken for moments of extended numbers. -/
def Moments.extend (curve : Curve) (moments : Moments ℝ) : Moments (Extended curve) :=
  ⟨moments.count, number moments.mean, number moments.squares⟩

/-- An exact trend, taken for a trend of extended numbers. -/
def Trend.extend (curve : Curve) (trend : Trend ℝ) : Trend (Extended curve) :=
  ⟨number trend.alpha, trend.count, number trend.mean, number trend.variance⟩

theorem Moments.extend_add (moments : Moments ℝ) (sample : ℝ) :
    (moments.extend curve).add (number sample) = (moments.add sample).extend curve := by
  have positive : ((moments.count + 1 : Nat) : ℝ) ≠ 0 := Nat.cast_ne_zero.mpr (Nat.succ_ne_zero _)
  simp only [add, extend, number_sub, natCast_eq, number_div _ positive, number_add, number_mul]

theorem Moments.extend_variance? (moments : Moments ℝ) :
    (moments.extend curve).variance? = moments.variance?.map number := by
  have count : (moments.extend curve).count = moments.count := rfl
  rcases lt_or_ge moments.count 2 with few | many
  · rw [variance?_few few, variance?_few (count ▸ few), Option.map_none]
  · have positive : ((moments.count - 1 : Nat) : ℝ) ≠ 0 :=
      Nat.cast_ne_zero.mpr (Nat.sub_ne_zero_of_lt many)
    rw [variance?_many many, variance?_many (count ▸ many), Option.map_some, count, natCast_eq,
      extend, number_div _ positive]

theorem Trend.extend_add (trend : Trend ℝ) (sample : ℝ) :
    (trend.extend curve).add (number sample) = (trend.add sample).extend curve := by
  rcases eq_or_ne trend.count 0 with fresh | begun
  · simp [add, extend, fresh]
  · simp [add, extend, begun]

theorem Trend.extend_variance? (trend : Trend ℝ) :
    (trend.extend curve).variance? = trend.variance?.map number := by
  have count : (trend.extend curve).count = trend.count := rfl
  rcases lt_or_ge trend.count 2 with few | many
  · rw [variance?_few few, variance?_few (count ▸ few), Option.map_none]
  · rw [variance?_many many, variance?_many (count ▸ many), Option.map_some, extend]

namespace Model

theorem spread_map {variance? : Option ℝ} (nonneg : ∀ variance ∈ variance?, 0 ≤ variance) :
    spread (variance?.map number : Option (Extended curve)) =
      ofOption (variance?.map Real.sqrt) := by
  cases variance? with
  | none => rfl
  | some variance => exact root_number (nonneg variance rfl)

theorem toLog_number {sample : ℝ} (nonneg : 0 ≤ sample) :
    toLog (number sample : Extended curve) = number (curve.log1p sample) := by
  show Extended.log1p (number (max sample 0)) = _
  rw [max_eq_left nonneg]
  exact if_neg nonneg.not_gt

theorem ofLog_number {estimate : ℝ} (nonneg : 0 ≤ estimate) :
    ofLog (number estimate : Extended curve) = number (curve.expm1 estimate) :=
  congrArg number (max_eq_left (curve.expm1_nonneg nonneg))

theorem number_zero_le_ofLog (estimate : Extended curve) : number 0 ≤ ofLog estimate := by
  cases estimate with
  | number value => exact le_max_right (curve.expm1 value) 0
  | infinite => exact number_le_infinite 0
  | undefined => exact le_refl (0 : ℝ)

/-- **What a mean and a margin say of the answers of a model.** A likely value is a number for every
variate, and the mean if the margin vanishes. -/
structure Answers (model : Model (Extended curve)) (mean : ℝ) (margin? : Option ℝ) : Prop where
  average : model.average = number mean
  deviation : model.deviation = ofOption margin?
  high : model.high = number mean + ofOption margin?
  likely : ∀ variate : ℝ, ∃ value, model.likely (number variate) = number value ∧
    (margin? = some 0 → value = mean)

namespace Answers

variable {model : Model (Extended curve)} {mean : ℝ} {margin? : Option ℝ}

theorem average_le_high (answers : model.Answers mean margin?)
    (nonneg : ∀ margin ∈ margin?, 0 ≤ margin) : model.average ≤ model.high := by
  rw [answers.average, answers.high]
  cases margin? with
  | none => exact number_le_infinite mean
  | some margin => exact le_add_of_nonneg_right (nonneg margin rfl)

theorem zero_le_deviation (answers : model.Answers mean margin?)
    (nonneg : ∀ margin ∈ margin?, 0 ≤ margin) : number 0 ≤ model.deviation := by
  rw [answers.deviation]
  cases margin? with
  | none => exact number_le_infinite 0
  | some margin => exact nonneg margin rfl

theorem of_no_margin (answers : model.Answers mean (some 0)) :
    model.high = number mean ∧ model.deviation = number 0 ∧
      ∀ variate : ℝ, model.likely (number variate) = number mean := by
  refine ⟨?_, answers.deviation, fun variate => ?_⟩
  · rw [answers.high, ofOption, number_add, add_zero]
  · obtain ⟨value, drawn, still⟩ := answers.likely variate
    rw [drawn, still rfl]

end Answers

theorem displaced_number (mean : ℝ) (margin? : Option ℝ) (variate : ℝ) :
    ∃ value, displaced (number mean : Extended curve) (ofOption margin?) (number variate) =
        number value ∧ (margin? = some 0 → value = mean) := by
  cases margin? with
  | none => exact ⟨mean, rfl, nofun⟩
  | some margin =>
    refine ⟨mean + margin * variate, rfl, fun vanishes => ?_⟩
    rw [Option.some.inj vanishes, zero_mul, add_zero]

/-- A model whose high estimate and likely values come from its average and its deviation. -/
theorem answers_of_deviation {model : Model (Extended curve)} {mean : ℝ} {margin? : Option ℝ}
    (average : model.average = number mean) (deviation : model.deviation = ofOption margin?)
    (high : model.high = model.average + model.deviation)
    (likely : ∀ variate, model.likely variate = displaced model.average model.deviation variate) :
    model.Answers mean margin? := by
  refine ⟨average, deviation, by rw [high, average, deviation], fun variate => ?_⟩
  rw [likely, average, deviation]
  exact displaced_number mean margin? variate

theorem answers_exact {moments : Moments ℝ}
    (nonneg : ∀ variance ∈ moments.variance?, 0 ≤ variance) :
    (exact (moments.extend curve)).Answers moments.mean (moments.variance?.map Real.sqrt) := by
  refine answers_of_deviation rfl ?_ rfl fun _ => rfl
  rw [deviation, moments.extend_variance?, spread_map nonneg]

theorem answers_decay {trend : Trend ℝ} (nonneg : ∀ variance ∈ trend.variance?, 0 ≤ variance) :
    (decay (trend.extend curve)).Answers trend.mean (trend.variance?.map Real.sqrt) := by
  refine answers_of_deviation rfl ?_ rfl fun _ => rfl
  rw [deviation, trend.extend_variance?, spread_map nonneg]

/-- **A logarithm carries the mean and the margin of its inner model over to the samples.** -/
theorem Answers.log {inner : Model (Extended curve)} {mean : ℝ} {margin? : Option ℝ}
    (answers : inner.Answers mean margin?) (positive : 0 ≤ mean)
    (nonneg : ∀ margin ∈ margin?, 0 ≤ margin) :
    inner.log.Answers (curve.expm1 mean)
      (margin?.map fun margin => curve.expm1 (mean + margin) - curve.expm1 mean) := by
  have average : inner.log.average = number (curve.expm1 mean) := by
    rw [Model.average, answers.average, ofLog_number positive]
  have high : inner.log.high = number (curve.expm1 mean) +
      ofOption (margin?.map fun margin => curve.expm1 (mean + margin) - curve.expm1 mean) := by
    rw [Model.high, answers.high]
    cases margin? with
    | none => rfl
    | some margin =>
      have above : 0 ≤ mean + margin := add_nonneg positive (nonneg margin rfl)
      simp [ofOption, ofLog_number above]
  refine ⟨average, ?_, high, fun variate => ?_⟩
  · -- over a logarithm the deviation is defined by the high estimate and not the other way round
    show inner.log.high - inner.log.average = _
    rw [high, average, add_ofOption_sub]
  · obtain ⟨value, drawn, still⟩ := answers.likely variate
    refine ⟨max (curve.expm1 value) 0, by rw [Model.likely, drawn]; rfl, fun vanishes => ?_⟩
    obtain ⟨margin, known, distance⟩ := Option.map_eq_some_iff.mp vanishes
    -- a margin that vanishes out here has vanished inside, since the curve is strict
    have equal : mean + margin = mean := by
      refine curve.expm1_strictMonoOn.injOn ?_ positive (sub_eq_zero.mp distance)
      exact add_nonneg positive (nonneg margin known)
    have inner : margin? = some 0 := known.trans (congrArg some (left_eq_add.mp equal.symm))
    rw [still inner, max_eq_left (curve.expm1_nonneg positive)]

/-! ### Models in training -/

/-- **A model without samples:** one of the two summaries under any number of logarithms. -/
inductive Untrained : Model (Extended curve) → Prop
  | exact : Untrained (.exact .empty)
  | decay {alpha : ℝ} : 0 < alpha → alpha < 1 → Untrained (.decay (.empty (number alpha)))
  | log {inner : Model (Extended curve)} : Untrained inner → Untrained (.log inner)

/-- The model that has taken in some samples, one after the other. -/
noncomputable def train (model : Model (Extended curve)) (samples : List ℝ) :
    Model (Extended curve) :=
  (samples.map number).foldl add model

/-- A model that follows a computation on exact numbers follows it over all samples. -/
theorem train_embedded {State : Type} (embed : State → Model (Extended curve))
    {step : State → ℝ → State}
    (follows : ∀ state sample, (embed state).add (number sample) = embed (step state sample))
    (start : State) (samples : List ℝ) :
    (embed start).train samples = embed (samples.foldl step start) := by
  rw [train, List.foldl_map]
  exact List.foldl_hom embed follows

theorem train_exact (samples : List ℝ) :
    (exact .empty : Model (Extended curve)).train samples =
      exact ((Moments.collect samples).extend curve) :=
  train_embedded (fun moments : Moments ℝ => exact (moments.extend curve))
    (fun moments sample => congrArg exact (moments.extend_add sample)) Moments.empty samples

theorem train_decay (alpha : ℝ) (samples : List ℝ) :
    (decay (.empty (number alpha)) : Model (Extended curve)).train samples =
      decay (((Trend.empty alpha).follow samples).extend curve) :=
  train_embedded (fun trend : Trend ℝ => decay (trend.extend curve))
    (fun trend sample => congrArg decay (trend.extend_add sample)) (Trend.empty alpha) samples

theorem train_log (inner : Model (Extended curve)) {samples : List ℝ}
    (nonneg : ∀ sample ∈ samples, 0 ≤ sample) :
    inner.log.train samples = (inner.train (samples.map curve.log1p)).log := by
  induction samples generalizing inner with
  | nil => rfl
  | cons sample rest hypothesis =>
    obtain ⟨first, others⟩ := List.forall_mem_cons.mp nonneg
    have step : inner.log.add (number sample) = (inner.add (number (curve.log1p sample))).log := by
      rw [add, toLog_number first]
    calc inner.log.train (sample :: rest)
        = (inner.log.add (number sample)).train rest := rfl
      _ = (inner.add (number (curve.log1p sample))).log.train rest := by rw [step]
      _ = (inner.train ((sample :: rest).map curve.log1p)).log := hypothesis _ others

/-- **Behind every trained model stand a mean and a margin that are within its samples.** -/
theorem Untrained.answers_train {model : Model (Extended curve)} (untrained : model.Untrained)
    {samples : List ℝ} (nonempty : samples ≠ []) (nonneg : ∀ sample ∈ samples, 0 ≤ sample) :
    ∃ mean margin?, Within samples mean margin? ∧ (model.train samples).Answers mean margin? := by
  induction untrained generalizing samples with
  | exact =>
    have within := Moments.within_collect nonempty
    refine ⟨_, _, within.root, ?_⟩
    rw [train_exact]
    exact answers_exact within.nonneg
  | decay positive below =>
    have within := Trend.within_follow positive below nonempty
    refine ⟨_, _, within.root, ?_⟩
    rw [train_decay]
    exact answers_decay within.nonneg
  | log _ hypothesis =>
    have logarithms : ∀ logarithm ∈ samples.map curve.log1p, 0 ≤ logarithm :=
      List.forall_mem_map.mpr fun sample mem => curve.log1p_nonneg (nonneg sample mem)
    obtain ⟨mean, margin?, within, answers⟩ :=
      hypothesis (List.map_eq_nil_iff.not.mpr nonempty) logarithms
    refine ⟨_, _, within.expm1 curve nonneg, ?_⟩
    rw [train_log _ nonneg]
    exact answers.log (within.amid.nonneg logarithms) within.nonneg

/-- **Every model estimates within its samples.** For every logarithmic curve and every model, after
any samples that are not negative: the average lies between the least and the greatest sample; the
high estimate is at least the average, the deviation at least zero, and both are infinite with fewer
than two samples and only then; and no likely value of a logarithmic model is negative. At least two
samples that are all the same are the average, the high estimate and every likely value, without any
deviation. -/
theorem estimates_within_samples (curve : Curve) (model : Model (Extended curve))
    (untrained : model.Untrained) (samples : List ℝ) (nonempty : samples ≠ [])
    (nonneg : ∀ sample ∈ samples, 0 ≤ sample) :
    let trained := (samples.map number).foldl Model.add model
    number (samples.min nonempty) ≤ trained.average ∧
    trained.average ≤ number (samples.max nonempty) ∧
    trained.average ≤ trained.high ∧
    number 0 ≤ trained.deviation ∧
    (trained.deviation = infinite ↔ samples.length < 2) ∧
    (trained.high = infinite ↔ samples.length < 2) ∧
    (∀ inner, model = .log inner → ∀ variate : ℝ, number 0 ≤ trained.likely (number variate)) ∧
    ∀ sample, 2 ≤ samples.length → (∀ other ∈ samples, other = sample) →
      trained.average = number sample ∧
      trained.high = number sample ∧
      trained.deviation = number 0 ∧
      ∀ variate : ℝ, trained.likely (number variate) = number sample := by
  intro trained
  obtain ⟨mean, margin?, within, answers⟩ := untrained.answers_train nonempty nonneg
  have answers : trained.Answers mean margin? := answers
  refine ⟨?_, ?_, answers.average_le_high within.nonneg, answers.zero_le_deviation within.nonneg,
    ?_, ?_, ?_, ?_⟩
  · obtain ⟨sample, mem, le⟩ := within.amid.least
    rw [answers.average, number_le_number]
    exact (List.min_le_of_mem mem).trans le
  · obtain ⟨sample, mem, le⟩ := within.amid.greatest
    rw [answers.average, number_le_number]
    exact le.trans (List.le_max_of_mem mem)
  · rw [answers.deviation, ofOption_eq_infinite, within.unknown]
  · rw [answers.high, add_ofOption_eq_infinite, within.unknown]
  · rintro inner rfl variate
    have outer : trained = (inner.train (samples.map curve.log1p)).log := train_log inner nonneg
    rw [outer]
    exact number_zero_le_ofLog _
  · intro sample many same
    obtain ⟨rfl, rfl⟩ := within.eq_of_same many same
    exact ⟨answers.average, answers.of_no_margin⟩

/-- A trend under two logarithms: after samples of one and four the average lies between them and
the high estimate is known, and two samples of four are estimated as four without a deviation. -/
theorem estimates_within_samples_twofold :
    let model : Model (Extended .natural) := .log (.log (.decay (.empty (number (1 / 2)))))
    let varied := (([1, 4] : List ℝ).map number).foldl Model.add model
    let steady := (([4, 4] : List ℝ).map number).foldl Model.add model
    model.Untrained ∧ (∀ sample ∈ ([1, 4] : List ℝ), 0 ≤ sample) ∧
      number 1 ≤ varied.average ∧ varied.average ≤ number 4 ∧ varied.average ≤ varied.high ∧
      varied.high ≠ infinite ∧ (∀ variate : ℝ, number 0 ≤ varied.likely (number variate)) ∧
      steady.average = number 4 ∧ steady.high = number 4 ∧ steady.deviation = number 0 ∧
      ∀ variate : ℝ, steady.likely (number variate) = number 4 := by
  intro model varied steady
  have untrained : model.Untrained := .log (.log (.decay (by norm_num) (by norm_num)))
  have nonneg : ∀ sample ∈ ([1, 4] : List ℝ), 0 ≤ sample := by simp
  obtain ⟨least, greatest, ordered, _, _, unbounded, likely, _⟩ :=
    estimates_within_samples .natural model untrained [1, 4] (List.cons_ne_nil _ _) nonneg
  obtain ⟨_, _, _, _, _, _, _, same⟩ :=
    estimates_within_samples .natural model untrained [4, 4] (List.cons_ne_nil _ _) (by simp)
  have low : ([1, 4] : List ℝ).min (List.cons_ne_nil _ _) = 1 := by norm_num [List.min]
  have top : ([1, 4] : List ℝ).max (List.cons_ne_nil _ _) = 4 := by norm_num [List.max]
  rw [low] at least
  rw [top] at greatest
  have known : varied.high ≠ infinite := unbounded.not.mpr (by decide)
  exact ⟨untrained, nonneg, least, greatest, ordered, known, likely _ rfl,
    same 4 le_rfl (by simp)⟩

end Model

end JobPool
