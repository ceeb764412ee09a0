/-
**Loading settings from the environment.**

A variable whose name begins with `MAW__` lays a value over the defaults: two underscores separate
the keys of the path to it, in any case. The result is read group by group and key by key in
alphabetical order, and the first value that does not fit is the fault. A group may also be given as
a sequence, whose items are the values of its keys in their listed order. A limit on attempts or a
seed of zero, and an empty log filter, mean that there is none.
-/

import JobPool.Settings.Basic

namespace JobPool

/-! ## Reading single values -/

namespace Setting

abbrev Reading (α : Type) := Setting → Except Misfit α

/-- The value has another type than the expected one. -/
def wrongType {α : Type} (found : Setting) (expected : String) : Except Misfit α :=
  .error (.here (.type found expected))

/-- A natural number of 64 bits, under one of its two names. -/
def readNatural (expected : String) : Reading Nat
  | .natural value => .ok value
  | .integer value =>
    if value < 0 then .error (.here (.negative value expected)) else .ok value.toNat
  | other => other.wrongType expected

def readReal : Reading Float
  | .real value => .ok value
  | .natural value => .ok (Float.ofNat value)
  | .integer value =>
    .ok (if value < 0 then -Float.ofNat value.natAbs else Float.ofNat value.natAbs)
  | other => other.wrongType "f64"

def readTruth : Reading Bool
  | .truth value => .ok value
  | other => other.wrongType "a boolean"

def readText : Reading String
  | .text value => .ok value
  | .character value => .ok (String.singleton value)
  | other => other.wrongType "a string"

/-- A choice among named alternatives. A table with a key that names one still needs a value, and
no value can be given for it. -/
def readChoice {α : Type} (title : String) (choices : List α) (name : α → String) : Reading α
  | .text value =>
    match choices.find? fun choice => name choice = value with
    | some choice => .ok choice
    | none => .error (.here (.choice value (choices.map name)))
  | .table [] => wrongType (.table []) "enum"
  | .table ((key, value) :: _) =>
    match choices.find? fun choice => name choice = key with
    | some _ => .error (.under key (.here (.type value "unit")))
    | none => .error (.under key (.here (.choice key (choices.map name))))
  | other => other.wrongType ("enum " ++ title)

/-! ## Reading groups -/

/-- The title of a group and its keys in their listed order, each with its check. -/
structure Group where
  title : String
  checks : List (String × Reading Unit)

namespace Group

/-- How many keys the group has, in a report. -/
def expectation (group : Group) : String :=
  let count := group.checks.length
  s!"struct {group.title} with {count} element" ++ (if count = 1 then "" else "s")

/-- Checks the items of a sequence against the keys in their listed order. -/
def checkItems (group : Group) (items : List Setting) : Nat → List (String × Reading Unit) →
    Except Misfit Unit
  | _, [] => .ok ()
  | position, (_, check) :: rest =>
    match items[position]? with
    | none => .error (.here (.length position group.expectation))
    | some item => do
      (check item).mapError (Misfit.under (toString position))
      group.checkItems items (position + 1) rest

/-- The entries of a group, after every one of them has been checked. -/
def open? (group : Group) : Reading (List (String × Setting))
  | .table entries => do
    for (key, value) in entries do
      match group.checks.lookup key with
      | some check => (check value).mapError (Misfit.under key)
      | none => pure ()
    return entries
  | .sequence items => do
    group.checkItems items 0 group.checks
    return (group.checks.map Prod.fst).zip items
  | other => other.wrongType ("struct " ++ group.title)

/-- The value under a key that has been checked. -/
def get {α : Type} (entries : List (String × Setting)) (key : String) (read : Reading α) :
    Except Misfit α :=
  (read ((entries.lookup key).getD (.table []))).mapError (Misfit.under key)

end Group

/-- A reading of which only the success matters. -/
def checked {α : Type} (read : Reading α) : Reading Unit := fun value => do
  discard (read value)

end Setting

namespace Settings

open Setting

def readMillis : Reading Nat := readNatural "u64"

def readCount : Reading Nat := readNatural "usize"

def readRule : Reading RuleKind := readChoice "SelectorKind" RuleKind.all RuleKind.name

def readModel : Reading ModelKind := readChoice "EstimatorKind" ModelKind.all ModelKind.name

/-- A number that stands for no limit when it is zero. -/
def nonZero (value : Nat) : Option Nat := if value = 0 then none else some value

/-- A text that stands for none when it is empty. -/
def nonEmpty (value : String) : Option String := if value.isEmpty then none else some value

def engineGroup : Group :=
  { title := "EngineConfig"
    checks :=
      [("sleep_interval_millis", checked readMillis), ("long_sleep_ratio", checked readReal),
        ("transport_shutdown_timeout_millis", checked readMillis)] }

def readEngine : Reading EngineSettings := fun value => do
  let entries ← engineGroup.open? value
  return {
    sleepIntervalMillis := ← Group.get entries "sleep_interval_millis" readMillis
    longSleepRatio := ← Group.get entries "long_sleep_ratio" readReal
    shutdownTimeoutMillis := ← Group.get entries "transport_shutdown_timeout_millis" readMillis }

def schedulerGroup : Group :=
  { title := "SchedulerConfig"
    checks :=
      [("selector", checked readRule), ("max_outstanding_per_worker", checked readCount),
        ("job_max_attempts", checked readCount), ("learn_from_failures", checked readTruth),
        ("account_queued_work", checked readTruth), ("rng_seed", checked readMillis)] }

def readScheduler : Reading SchedulerSettings := fun value => do
  let entries ← schedulerGroup.open? value
  return {
    selector := ← Group.get entries "selector" readRule
    maxOutstanding := ← Group.get entries "max_outstanding_per_worker" readCount
    maxAttempts := nonZero (← Group.get entries "job_max_attempts" readCount)
    learnFromFailures := ← Group.get entries "learn_from_failures" readTruth
    accountQueuedWork := ← Group.get entries "account_queued_work" readTruth
    seed := nonZero (← Group.get entries "rng_seed" readMillis) }

def forecastGroup : Group :=
  { title := "EstimatorConfig"
    checks := [("kind", checked readModel), ("decay_alpha", checked readReal)] }

def readForecast : Reading ForecastSettings := fun value => do
  let entries ← forecastGroup.open? value
  return {
    kind := ← Group.get entries "kind" readModel
    alpha := ← Group.get entries "decay_alpha" readReal }

def logGroup : Group :=
  { title := "TelemetryConfig"
    checks := [("log_filter", checked readText)] }

def readLog : Reading LogSettings := fun value => do
  let entries ← logGroup.open? value
  return { filter := nonEmpty (← Group.get entries "log_filter" readText) }

/-- Reads all groups in alphabetical order. -/
def read (entries : List (String × Setting)) : Except Misfit Settings := do
  let engine ← Group.get entries "engine" readEngine
  let forecast ← Group.get entries "estimator" readForecast
  let scheduler ← Group.get entries "scheduler" readScheduler
  let log ← Group.get entries "telemetry" readLog
  return ⟨engine, scheduler, forecast, log⟩

/-! ## Defaults and the environment -/

/-- A table with its keys in order. -/
def table (entries : List (String × Setting)) : Setting :=
  .table (entries.foldl (fun table entry => put entry.1 entry.2 table) [])

/-- The settings of a pool for which nothing is set. -/
def defaults : Setting :=
  table
    [("engine", table
        [("sleep_interval_millis", .natural 1000), ("long_sleep_ratio", .real 0.9),
          ("transport_shutdown_timeout_millis", .natural 1000)]),
      ("scheduler", table
        [("selector", .text "learning"), ("max_outstanding_per_worker", .natural 2),
          ("job_max_attempts", .natural 4), ("learn_from_failures", .truth true),
          ("account_queued_work", .truth false), ("rng_seed", .natural 0)]),
      ("estimator", table [("kind", .text "exact"), ("decay_alpha", .real 0.33)]),
      ("telemetry", table [("log_filter", .text "info")])]

/-- The words before which a variable's name must begin, and the sign between keys. -/
def variablePrefix : List Char := ['m', 'a', 'w', '_', '_']

/-- Splits a path at double underscores and at points. -/
def splitPath : List Char → List (List Char)
  | [] => [[]]
  | '_' :: '_' :: rest => [] :: splitPath rest
  | '.' :: rest => [] :: splitPath rest
  | char :: rest =>
    match splitPath rest with
    | [] => [[char]]
    | key :: keys => (char :: key) :: keys

/-- The path of keys that a variable sets, if it sets any. -/
def path? (name : String) : Option (List String) :=
  let lower := (Text.trim name.toList).map Char.toLower
  if lower.take 5 ≠ variablePrefix then none
  else
    let keys := splitPath (Text.trim (lower.drop 5))
    if keys.any List.isEmpty then none else some (keys.map String.ofList)

/-- Everything that the environment sets. -/
def ofEnvironment (environment : List (String × String)) : Except MisplacedCut Setting :=
  environment.foldlM
    (fun set entry =>
      match path? entry.1 with
      | some path => return set.merge (nest path (← Setting.ofText entry.2))
      | none => return set)
    (.table [])

/-- Loads the settings of an environment. A value that cannot be read at all is a fault before any
other. -/
def load (environment : List (String × String)) : Except SettingsFault Settings :=
  match ofEnvironment environment with
  | .error cut => .error (.misplacedCut cut)
  | .ok set =>
    match defaults.merge set with
    | .table entries =>
      match read entries with
      | .error misfit => .error (.unreadable misfit)
      | .ok settings => do
        settings.validate
        return settings
    | _ => .ok {}

end Settings

end JobPool
