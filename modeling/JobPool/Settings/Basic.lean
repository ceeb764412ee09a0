/-
**The settings of a pool.**

Settings come in four groups and have defaults. `Settings.validate` refuses a pool without
capacity, a share outside `(0, 1)`, a sleep ratio outside `(0, 1]` and an empty sleep interval, in
this order; `validate_eq_ok_iff` says that nothing else is refused.
-/

import JobPool.Forecast.Forecaster
import JobPool.Settings.Fault

namespace JobPool

/-- The rules by which a worker is selected. -/
inductive RuleKind where
  | learning
  | roundRobin
  deriving DecidableEq, Repr, Inhabited

namespace RuleKind

def name : RuleKind → String
  | learning => "learning"
  | roundRobin => "round-robin"

def all : List RuleKind := [learning, roundRobin]

end RuleKind

/-- How an engine waits and stops. -/
structure EngineSettings where
  sleepIntervalMillis : Nat := 1000
  longSleepRatio : Float := 0.9
  shutdownTimeoutMillis : Nat := 1000

/-- How jobs are dispatched. -/
structure SchedulerSettings where
  selector : RuleKind := .learning
  maxOutstanding : Nat := 2
  maxAttempts : Option Nat := some 4
  learnFromFailures : Bool := true
  accountQueuedWork : Bool := false
  seed : Option Nat := none

/-- How completion times are modelled. -/
structure ForecastSettings where
  kind : ModelKind := .exact
  alpha : Float := 0.33

/-- What is logged. -/
structure LogSettings where
  filter : Option String := some "info"

/-- All settings of a pool. -/
structure Settings where
  engine : EngineSettings := {}
  scheduler : SchedulerSettings := {}
  forecast : ForecastSettings := {}
  log : LogSettings := {}

namespace Settings

/-- Refuses settings with which no pool can run. -/
def validate (settings : Settings) : Except SettingsFault Unit :=
  if settings.scheduler.maxOutstanding = 0 then .error .noCapacity
  else if !(settings.forecast.alpha > 0 && settings.forecast.alpha < 1) then
    .error (.alphaOutOfRange settings.forecast.alpha)
  else if !(settings.engine.longSleepRatio > 0 && settings.engine.longSleepRatio ≤ 1) then
    .error (.ratioOutOfRange settings.engine.longSleepRatio)
  else if settings.engine.sleepIntervalMillis = 0 then .error .noSleepInterval
  else .ok ()

/-- Settings are valid exactly when every value is in its range. -/
theorem validate_eq_ok_iff (settings : Settings) :
    settings.validate = .ok () ↔
      0 < settings.scheduler.maxOutstanding ∧
      (settings.forecast.alpha > 0 ∧ settings.forecast.alpha < 1) ∧
      (settings.engine.longSleepRatio > 0 ∧ settings.engine.longSleepRatio ≤ 1) ∧
      0 < settings.engine.sleepIntervalMillis := by
  unfold validate
  grind

end Settings

end JobPool
