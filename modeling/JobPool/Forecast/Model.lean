/-
**Running models of a worker's completion times.**

A model takes in samples one at a time and keeps an average and a spread.

* `Moments` weighs all samples alike: it keeps the mean and the sum of squared deviations, updated
  by the deviations from the mean before and after the sample.
* `Trend` weighs recent samples more: each sample moves the mean by the share `alpha` of its
  deviation, and the variance shrinks by the same share.
* `Model.log` models the logarithm of one plus the sample, which suits times whose spread grows with
  their size. Its estimates are mapped back and are never negative.

With fewer than two samples the spread is unbounded. A likely value is the average plus the spread
times a standard normal variate; over a logarithm it is mapped back like every estimate.
-/

import JobPool.Forecast.Scale

namespace JobPool

/-- All samples weighed alike. -/
structure Moments (α : Type) where
  count : Nat
  mean : α
  /-- The sum of the squared deviations from the mean. -/
  squares : α

namespace Moments

variable {α : Type} [Add α] [Sub α] [Mul α] [Div α] [NatCast α]

/-- No samples yet. -/
def empty : Moments α := ⟨0, (0 : Nat), (0 : Nat)⟩

/-- Takes in one sample. -/
def add (moments : Moments α) (sample : α) : Moments α :=
  let count := moments.count + 1
  let deviation := sample - moments.mean
  let mean := moments.mean + deviation / (count : α)
  ⟨count, mean, moments.squares + deviation * (sample - mean)⟩

/-- The sample variance, none with fewer than two samples. -/
def variance? (moments : Moments α) : Option α :=
  if moments.count < 2 then none
  else some (moments.squares / ((moments.count - 1 : Nat) : α))

omit [Add α] [Sub α] [Mul α] in
theorem variance?_few {moments : Moments α} (few : moments.count < 2) : moments.variance? = none :=
  if_pos few

omit [Add α] [Sub α] [Mul α] in
theorem variance?_many {moments : Moments α} (many : 2 ≤ moments.count) :
    moments.variance? = some (moments.squares / ((moments.count - 1 : Nat) : α)) :=
  if_neg (Nat.not_lt.mpr many)

end Moments

/-- Recent samples weighed more. -/
structure Trend (α : Type) where
  alpha : α
  count : Nat
  mean : α
  variance : α

namespace Trend

variable {α : Type} [Add α] [Sub α] [Mul α] [NatCast α]

/-- No samples yet, with the share that each later sample gets. -/
def empty (alpha : α) : Trend α := ⟨alpha, 0, (0 : Nat), (0 : Nat)⟩

/-- Takes in one sample. The first one sets the mean. -/
def add (trend : Trend α) (sample : α) : Trend α :=
  if trend.count = 0 then { trend with count := 1, mean := sample, variance := (0 : Nat) }
  else
    let deviation := sample - trend.mean
    let step := trend.alpha * deviation
    { trend with
      count := trend.count + 1
      mean := trend.mean + step
      variance := ((1 : Nat) - trend.alpha) * (trend.variance + deviation * step) }

/-- The variance, none with fewer than two samples. -/
def variance? (trend : Trend α) : Option α :=
  if trend.count < 2 then none else some trend.variance

omit [Add α] [Sub α] [Mul α] [NatCast α] in
theorem variance?_few {trend : Trend α} (few : trend.count < 2) : trend.variance? = none :=
  if_pos few

omit [Add α] [Sub α] [Mul α] [NatCast α] in
theorem variance?_many {trend : Trend α} (many : 2 ≤ trend.count) :
    trend.variance? = some trend.variance :=
  if_neg (Nat.not_lt.mpr many)

end Trend

/-- A model of completion times. -/
inductive Model (α : Type) where
  | exact (moments : Moments α)
  | decay (trend : Trend α)
  | log (inner : Model α)

namespace Model

variable {α : Type} [Scale α]

/-- Into the logarithmic domain; what is not above zero counts as zero. -/
def toLog (sample : α) : α := Scale.log1p (Scale.clamp sample)

/-- Out of the logarithmic domain, never below zero. -/
def ofLog (estimate : α) : α := Scale.clamp (Scale.expm1 estimate)

/-- The name under which a model is listed. -/
def name : Model α → String
  | exact _ => "exact"
  | decay _ => "decay"
  | log _ => "log"

/-- Takes in one sample. -/
def add : Model α → α → Model α
  | exact moments, sample => exact (moments.add sample)
  | decay trend, sample => decay (trend.add sample)
  | log inner, sample => log (inner.add (toLog sample))

/-- The number of samples taken in. -/
def count : Model α → Nat
  | exact moments => moments.count
  | decay trend => trend.count
  | log inner => inner.count

def average : Model α → α
  | exact moments => moments.mean
  | decay trend => trend.mean
  | log inner => ofLog inner.average

/-- The spread of a variance that may not be known yet. -/
def spread : Option α → α
  | none => Scale.unbounded
  | some variance => Scale.root variance

/-- A pessimistic estimate: the average plus the spread. -/
def high : Model α → α
  | exact moments => moments.mean + spread moments.variance?
  | decay trend => trend.mean + spread trend.variance?
  | log inner => ofLog inner.high

/-- The standard deviation, over a logarithm the distance from the average to the high estimate. -/
def deviation : Model α → α
  | exact moments => spread moments.variance?
  | decay trend => spread trend.variance?
  | log inner => ofLog inner.high - ofLog inner.average

/-- The average moved by a number of spreads; an unknown spread leaves the average. -/
def displaced (average spread variate : α) : α :=
  if Scale.isBounded spread then average + spread * variate else average

/-- The likely value that a standard normal variate selects. -/
def likely : Model α → α → α
  | exact moments, variate => displaced moments.mean (spread moments.variance?) variate
  | decay trend, variate => displaced trend.mean (spread trend.variance?) variate
  | log inner, variate => ofLog (inner.likely variate)

/-- A likely value depends on a variate, because the spread is known. -/
def needsVariate : Model α → Bool
  | exact moments => Scale.isBounded (spread moments.variance?)
  | decay trend => Scale.isBounded (spread trend.variance?)
  | log inner => inner.needsVariate

end Model

end JobPool
