/-
**Options of a node.**

The options are the settings in the form in which a node uses them: times as durations, and
everything that concerns dispatching in one policy. What the settings leave to chance comes from the
surroundings: the stream of the random draws, where no seed is set.
-/

import JobPool.Duration
import JobPool.Random.Stream
import JobPool.Settings.Basic

namespace JobPool

/-- How a master dispatches jobs and learns from their completion. -/
structure Policy where
  selector : RuleKind
  /-- The most requests that one worker may have outstanding. -/
  maxOutstanding : Nat
  /-- The most dispatches of one job, none for no limit. -/
  maxAttempts : Option Nat
  learnFromFailures : Bool
  accountQueuedWork : Bool
  /-- The seed of all random draws, if they are to be the same in every run. -/
  seed : Option Nat
  /-- The stream of all random draws without a seed, which may be any. -/
  entropy : Random.Stream
  kind : ModelKind
  alpha : Float

/-- The options of one node. -/
structure Options where
  /-- The longest wait for an event. -/
  sleepInterval : Duration
  /-- A wait longer than this share of the interval counts as a long one. -/
  longSleepRatio : Float
  shutdownTimeout : Duration
  policy : Policy

namespace Settings

/-- The dispatching policy of some settings. -/
def policy (settings : Settings) (entropy : Random.Stream := .ofSeed 0) : Policy :=
  { selector := settings.scheduler.selector
    maxOutstanding := settings.scheduler.maxOutstanding
    maxAttempts := settings.scheduler.maxAttempts
    learnFromFailures := settings.scheduler.learnFromFailures
    accountQueuedWork := settings.scheduler.accountQueuedWork
    seed := settings.scheduler.seed
    entropy := entropy
    kind := settings.forecast.kind
    alpha := settings.forecast.alpha }

/-- The options of a node under some settings. -/
def options (settings : Settings) (entropy : Random.Stream := .ofSeed 0) : Options :=
  { sleepInterval := .ofMillis settings.engine.sleepIntervalMillis
    longSleepRatio := settings.engine.longSleepRatio
    shutdownTimeout := .ofMillis settings.engine.shutdownTimeoutMillis
    policy := settings.policy entropy }

end Settings

end JobPool
