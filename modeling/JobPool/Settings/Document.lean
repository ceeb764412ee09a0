/-
**Settings as a document.**

The settings are written as an indented document with one value on a line, the groups and their
values in a fixed order. Numbers are written with the fewest digits, and a value that is left out is
`null`.
-/

import JobPool.Decimal.Shortest
import JobPool.Settings.Basic

namespace JobPool

namespace Text

/-- One character of a quoted text in a document. -/
def documentChar (char : Char) : List Char :=
  match char with
  | '"' => ['\\', '"']
  | '\\' => ['\\', '\\']
  | '\n' => ['\\', 'n']
  | '\r' => ['\\', 'r']
  | '\t' => ['\\', 't']
  | '\x08' => ['\\', 'b']
  | '\x0c' => ['\\', 'f']
  | _ =>
    if char.toNat < 0x20 then
      let digits := Nat.toDigits 16 char.toNat
      ['\\', 'u'] ++ List.replicate (4 - digits.length) '0' ++ digits
    else [char]

/-- A text between double quotes in a document. -/
def documentQuoted (text : String) : String :=
  String.ofList ('"' :: text.toList.flatMap documentChar ++ ['"'])

end Text

namespace Settings

private def optionalText {α : Type} (write : α → String) : Option α → String
  | some value => write value
  | none => "null"

/-- The groups with the texts of their values. -/
def groups (settings : Settings) : List (String × List (String × String)) :=
  [("engine",
      [("sleep_interval_millis", toString settings.engine.sleepIntervalMillis),
        ("long_sleep_ratio", Decimal.document settings.engine.longSleepRatio),
        ("transport_shutdown_timeout_millis", toString settings.engine.shutdownTimeoutMillis)]),
    ("scheduler",
      [("selector", Text.documentQuoted settings.scheduler.selector.name),
        ("max_outstanding_per_worker", toString settings.scheduler.maxOutstanding),
        ("job_max_attempts", optionalText toString settings.scheduler.maxAttempts),
        ("learn_from_failures", toString settings.scheduler.learnFromFailures),
        ("account_queued_work", toString settings.scheduler.accountQueuedWork),
        ("rng_seed", optionalText toString settings.scheduler.seed)]),
    ("estimator",
      [("kind", Text.documentQuoted settings.forecast.kind.name),
        ("decay_alpha", Decimal.document settings.forecast.alpha)]),
    ("telemetry", [("log_filter", optionalText Text.documentQuoted settings.log.filter)])]

/-- Lines with a comma after all but the last. -/
def separated : List String → List String
  | [] => []
  | [line] => [line]
  | line :: rest => (line ++ ",") :: separated rest

/-- The lines of a group. -/
def groupText (group : String × List (String × String)) : String :=
  let values := separated (group.2.map fun value => s!"    \"{value.1}\": {value.2}")
  "\n".intercalate (s!"  \"{group.1}\": \x7b" :: values ++ ["  \x7d"])

/-- The whole document. -/
def document (settings : Settings) : String :=
  "\n".intercalate ("\x7b" :: separated (settings.groups.map groupText) ++ ["\x7d"])

end Settings

end JobPool
