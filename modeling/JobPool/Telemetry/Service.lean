/-
**Telemetry.**

Telemetry writes the log of a process. It is initialized at most once, with a filter that the
environment may override, and fails for good when some other logger has been installed before. A
shutdown only ends its life: records are still written afterwards.

A record is written as one line. Unless the environment asks for colours, the line holds only what
a terminal would show.

* `setUp_succeeds_iff` says when it is initialized: once, before any other logger;
* `status_setUp` says that no later attempt finds it uninitialized.
-/

import JobPool.Telemetry.Filter
import JobPool.Text.Terminal

namespace JobPool

/-- A record with the place it comes from. -/
structure LogLine where
  level : LogLevel
  thread : String
  target : String
  text : String
  deriving DecidableEq, Repr

/-- The terminal sequence for the colour of a level. -/
def LogLevel.colour : LogLevel → String
  | error => "\x1b[1m\x1b[31m"
  | warn => "\x1b[33m"
  | info => "\x1b[32m"
  | debug => "\x1b[34m"
  | trace => "\x1b[36m"

/-- The record as it is written, with the text of its time and its end of line. -/
def LogLine.render (line : LogLine) (coloured : Bool) (time : String) : String :=
  let render := fun level =>
    "[" ++ time ++ " " ++ level ++ " " ++ line.thread ++ " " ++ line.target ++ "] " ++ line.text ++
      "\n"
  if coloured then render (line.level.colour ++ line.level.name ++ "\x1b[0m")
  else String.ofList (Text.stripped (render line.level.name).toList)

/-- What telemetry writes to the standard error. -/
inductive TelemetryOutput where
  | line (line : LogLine) (coloured : Bool)
  /-- A part of the filter was left out. -/
  | warning (text : String)
  deriving DecidableEq, Repr

def TelemetryOutput.render (time : String) : TelemetryOutput → String
  | line record coloured => record.render coloured time
  | warning text => "warning: " ++ text ++ ", ignoring it\n"

/-- Why telemetry cannot be initialized. -/
inductive TelemetryFault where
  | loggerTaken
  | alreadyInitialized
  | failedBefore
  | finalized
  deriving DecidableEq, Repr

namespace TelemetryFault

/-- The fault comes from the logger, not from the life of telemetry. -/
def isLoggerFault : TelemetryFault → Bool
  | loggerTaken => true
  | alreadyInitialized | failedBefore | finalized => false

def message : TelemetryFault → String
  | loggerTaken => "failed to install the logger: attempted to set a logger after the logging " ++
      "system was already initialized"
  | alreadyInitialized => "internal error: telemetry already initialized"
  | failedBefore => "internal error: telemetry failed to initialize previously"
  | finalized =>
    "internal error: telemetry has been finalized and cannot be re-initialized"

end TelemetryFault

/-- Where telemetry stands in its life. -/
inductive TelemetryStatus where
  | uninitialized
  | initialized
  | failed
  | finalized
  deriving DecidableEq, Repr

/-- What receives the records of the process. -/
inductive Logger where
  | none
  | own (filter : LogFilter) (coloured : Bool)
  /-- A logger of someone else, which keeps the records to itself. -/
  | foreign

/-- The telemetry of a process. -/
structure Telemetry where
  status : TelemetryStatus := .uninitialized
  logger : Logger := .none

namespace Telemetry

/-- The filter without any settings. -/
def defaultFilter : String := "info"

/-- The variable of the environment that overrides the filter. -/
def filterVariable : String := "RUST_LOG"

/-- The variable of the environment that says whether lines are coloured. -/
def styleVariable : String := "RUST_LOG_STYLE"

/-- The environment asks for coloured lines. -/
def wantsColour (environment : List (String × String)) : Bool :=
  match environment.lookup styleVariable with
  | some "always" => true
  | some "never" => false
  | _ =>
    let refused := (environment.lookup "NO_COLOR").getD ""
    let forced := (environment.lookup "CLICOLOR_FORCE").getD ""
    refused.isEmpty && !forced.isEmpty && forced ≠ "0"

/-- Writes a record, if the filter admits it. -/
def write (telemetry : Telemetry) (line : LogLine) : Traced TelemetryOutput Unit :=
  match telemetry.logger with
  | .own filter coloured =>
    if filter.admits line.level line.target line.text then Traced.emit (.line line coloured)
    else pure ()
  | .none | .foreign => pure ()

/-- The record that a successful initialization leaves. -/
def initialized (thread : String) : LogLine :=
  { level := .debug
    thread := thread
    target := "maw_telemetry::telemetry"
    text := "telemetry initialized" }

/-- Initializes telemetry on a thread. The filter of the environment goes before the one of the
settings. -/
def setUp (telemetry : Telemetry) (thread : String) (ofSettings : Option String)
    (environment : List (String × String)) :
    Traced TelemetryOutput (Except TelemetryFault Unit × Telemetry) := do
  match telemetry.status with
  | .initialized => return (.error .alreadyInitialized, telemetry)
  | .failed => return (.error .failedBefore, telemetry)
  | .finalized => return (.error .finalized, telemetry)
  | .uninitialized =>
    let (filter, complaints) := LogFilter.ofSpec
      ((environment.lookup filterVariable).getD (ofSettings.getD defaultFilter))
    complaints.forM fun complaint => Traced.emit (.warning complaint)
    match telemetry.logger with
    | .own .. | .foreign => return (.error .loggerTaken, { telemetry with status := .failed })
    | .none =>
      let logger := Logger.own filter (wantsColour environment)
      let telemetry : Telemetry := { status := .initialized, logger := logger }
      telemetry.write (initialized thread)
      return (.ok (), telemetry)

/-- Telemetry is initialized when nothing has been tried before and no logger is installed. -/
theorem setUp_succeeds_iff (telemetry : Telemetry) (thread : String)
    (ofSettings : Option String) (environment : List (String × String)) :
    (telemetry.setUp thread ofSettings environment).value.1 = .ok () ↔
      telemetry.status = .uninitialized ∧ telemetry.logger = .none := by
  unfold setUp
  cases stated : telemetry.status <;> cases installed : telemetry.logger <;> simp

/-- After an attempt telemetry is no longer uninitialized. -/
theorem status_setUp (telemetry : Telemetry) (thread : String)
    (ofSettings : Option String) (environment : List (String × String)) :
    (telemetry.setUp thread ofSettings environment).value.2.status ≠ .uninitialized := by
  unfold setUp
  cases stated : telemetry.status <;> cases installed : telemetry.logger <;> simp [stated]

/-- Ends the life of telemetry, once it has been initialized. -/
def shutdown (telemetry : Telemetry) : Telemetry :=
  match telemetry.status with
  | .initialized => { telemetry with status := .finalized }
  | .uninitialized | .failed | .finalized => telemetry

/-- Installs a logger of someone else, unless there is one already. -/
def installForeign (telemetry : Telemetry) : Telemetry :=
  match telemetry.logger with
  | .none => { telemetry with logger := .foreign }
  | .own .. | .foreign => telemetry

end Telemetry

end JobPool
