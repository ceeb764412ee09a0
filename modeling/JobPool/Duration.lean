/-
**Durations in whole nanoseconds.**

A duration is a count of nanoseconds below `2 ^ 64` seconds. A binary64 count of seconds becomes
the nearest duration, a half nanosecond going to the even neighbour; negative counts, NaN and
counts that are too large have none. In the other direction a duration is its whole seconds plus
its nanoseconds divided by a thousand million, in binary64 arithmetic.

* `TimeTally` keeps the count, the sum and the largest of a series of durations.
-/

import JobPool.Decimal.Binary
import JobPool.Decimal.Fixed

namespace JobPool

/-- A span of time in whole nanoseconds. -/
structure Duration where
  nanoseconds : Nat := 0
  deriving DecidableEq, Repr, Inhabited

namespace Duration

/-- The nanoseconds in a second. -/
def second : Nat := 1000000000

/-- The first count of nanoseconds that is not a duration. -/
def bound : Nat := UInt64.size * second

def ofMillis (millis : Nat) : Duration := ⟨millis * 1000000⟩

/-- The whole seconds. -/
def seconds (duration : Duration) : Nat := duration.nanoseconds / second

/-- The nanoseconds after the whole seconds. -/
def fraction (duration : Duration) : Nat := duration.nanoseconds % second

/-- The duration as a binary64 count of seconds. -/
def toSeconds (duration : Duration) : Float :=
  Float.ofNat duration.seconds + Float.ofNat duration.fraction / 1e9

/-- The nearest duration to a count of seconds. -/
def ofSeconds? (seconds : Float) : Option Duration :=
  match Binary.ofFloat? seconds with
  | none => none
  | some value =>
    let nanoseconds := roundQuotient (value.numerator * second) value.denominator
    if value.negative ∧ value.significand ≠ 0 then none
    else if nanoseconds < bound then some ⟨nanoseconds⟩
    else none

/-- The sum, none where it is too large. -/
def add? (first second : Duration) : Option Duration :=
  let total := first.nanoseconds + second.nanoseconds
  if total < bound then some ⟨total⟩ else none

end Duration

/-- What can go wrong with durations. -/
inductive DurationFault where
  | sumTooLarge
  | negative
  /-- A count of seconds is too large, or no number. -/
  | notCountable
  deriving DecidableEq, Repr

def DurationFault.message : DurationFault → String
  | .sumTooLarge => "overflow when adding durations"
  | .negative => "cannot convert float seconds to Duration: value is negative"
  | .notCountable =>
    "cannot convert float seconds to Duration: value is either too big or NaN"

/-- The nearest duration to a count of seconds, or the reason why there is none. -/
def Duration.ofSeconds (seconds : Float) : Except DurationFault Duration :=
  if seconds < 0 then .error .negative
  else
    match ofSeconds? seconds with
    | some duration => .ok duration
    | none => .error .notCountable

/-- The count, the sum and the largest of a series of durations. -/
structure TimeTally where
  count : Nat := 0
  total : Duration := {}
  largest : Duration := {}
  deriving DecidableEq, Repr, Inhabited

namespace TimeTally

def add (tally : TimeTally) (duration : Duration) : Except DurationFault TimeTally :=
  match tally.total.add? duration with
  | none => .error .sumTooLarge
  | some total => .ok
    { count := tally.count + 1
      total := total
      largest := ⟨max tally.largest.nanoseconds duration.nanoseconds⟩ }

/-- The mean in binary64 arithmetic, rounded to a nanosecond. -/
def mean (tally : TimeTally) : Except DurationFault Duration :=
  if tally.count = 0 then .ok {}
  else Duration.ofSeconds (tally.total.toSeconds / Float.ofNat tally.count)

/-- A duration in milliseconds with three decimals. -/
def millisText (duration : Duration) : String :=
  Decimal.fixed 3 (duration.toSeconds * 1000) ++ "ms"

/-- The tally in one line. -/
def text (tally : TimeTally) : Except DurationFault String := do
  let mean ← tally.mean
  return s!"count {tally.count}, mean {millisText mean}, max {millisText tally.largest}"

/-- The line of a tally whose durations were not measured. -/
def unmeasuredText (count : Nat) : String :=
  s!"count {count}, mean {millisText default}, max {millisText default}"

end TimeTally

end JobPool
