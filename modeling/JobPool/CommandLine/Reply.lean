/-
**Replies of the program.**

A reply is what the program writes and the code with which it exits: zero for success, one for a
fault, two for arguments that ask for nothing it can do. A demonstration also writes the log that
its telemetry admits.
-/

import JobPool.CommandLine.Arguments
import JobPool.Settings.Document
import JobPool.Settings.Loading
import JobPool.Telemetry.Service

namespace JobPool

/-- What the program writes, and its exit code. -/
structure Reply where
  exitCode : Nat := 0
  /-- The lines on the standard output. -/
  output : List String := []
  /-- The log on the standard error. -/
  log : List TelemetryOutput := []
  /-- The lines on the standard error after the log. -/
  complaint : List String := []

/-- Everything on the standard error, with one text for all times. -/
def Reply.errors (reply : Reply) (time : String) : String :=
  String.join (reply.log.map (·.render time)) ++ String.join (reply.complaint.map (· ++ "\n"))

/-! ## Faults with their kinds -/

def SettingsFaultKind.name : SettingsFaultKind → String
  | configuration => "ConfigError"
  | invalidArgument => "InvalidArgument"
  | breakdown => "panic"

/-- A fault of the settings with the name of its kind. -/
def SettingsFault.shown (fault : SettingsFault) : String :=
  s!"{fault.kind.name}({Text.quoted fault.detail})"

def FaultKind.name : FaultKind → String
  | settings => "CommonError"
  | system => "IoError"
  | invalidArgument => "InvalidArgument"
  | transport => "TransportError"
  | internal => "InternalError"

/-- A fault with the name of its kind. -/
def Fault.shown (fault : Fault) : String :=
  match fault with
  | .settings cause => s!"{fault.kind.name}({cause.shown})"
  | _ => s!"{fault.kind.name}({Text.quoted fault.detail})"

/-! ## The log of a pool -/

/-- The target of the records that a pool writes. -/
def PoolEffect.target : String := "maw_execution"

/-- The record that an effect leaves in the log of the process. -/
def PoolEffect.line? : PoolEffect → Option LogLine
  | .log record => some ⟨record.level, "main", target, record.text⟩
  | .engine node (.log record) =>
    some ⟨record.level, Engine.threadName node, target, record.text⟩
  | .engine .. | .posted .. => none

namespace Reply

/-- The reply to arguments with a fault. -/
def ofUsageFault (fault : UsageFault) : Reply :=
  { exitCode := 2
    complaint := ["error: " ++ fault.message, "", "For more information, try '--help'."] }

/-- The reply of a command that failed. -/
def failure (shown : String) (log : List TelemetryOutput) : Reply :=
  { exitCode := 1, log := log, complaint := ["Error: " ++ shown] }

/-- The reply to a fault in the settings. One that ends the program is reported after an empty
line. -/
def ofSettingsFault (fault : SettingsFault) : Reply :=
  if fault.kind = .breakdown then
    { exitCode := 101, complaint := ["", "thread 'main' panicked:", fault.message] }
  else failure fault.shown []

/-- The reply to a demonstration under some settings. -/
def ofDemonstration (plan : DemoPlan) (settings : Settings)
    (environment : List (String × String)) (entropy : Random.Stream) : Reply :=
  let ready := Telemetry.setUp {} "main" settings.log.filter environment
  match ready.value with
  | (.error fault, _) => failure fault.message ready.effects
  | (.ok (), telemetry) =>
    let shown := plan.demonstrate (settings.options entropy)
    let lines := shown.effects.filterMap PoolEffect.line?
    let log := ready.effects ++ lines.flatMap fun line => (telemetry.write line).effects
    match shown.value with
    | .error fault => failure fault.shown log
    | .ok result => { output := result.lines, log := log }

end Reply

/-- The reply to a command in an environment. -/
def Command.reply (command : Command) (environment : List (String × String))
    (entropy : Random.Stream) : Reply :=
  match command with
  | .help topic => { output := topic.lines }
  | .missing => { exitCode := 2, complaint := HelpTopic.program.lines }
  | .version => { output := ["maw 0.1.0"] }
  | .config =>
    match Settings.load environment with
    | .error fault => .ofSettingsFault fault
    | .ok settings => { output := settings.document.splitOn "\n" }
  | .run plan =>
    match Settings.load environment with
    | .error fault => .ofSettingsFault fault
    | .ok settings => .ofDemonstration plan settings environment entropy

/-- The variables of an environment given as entries `name=value` that end with a null character.
Entries without an equals sign are left out. -/
def readVariables (entries : String) : List (String × String) :=
  (Text.pieces '\x00' entries.toList).filterMap fun entry =>
    match splitValue entry with
    | (name, some value) => some (String.ofList name, String.ofList value)
    | (_, none) => none

/-- The reply to the arguments of the program in an environment. What is left to chance comes from
a stream. -/
def reply (arguments : List String) (environment : List (String × String))
    (entropy : Random.Stream) : Reply :=
  match Command.read arguments with
  | .error fault => .ofUsageFault fault
  | .ok command => command.reply environment entropy

end JobPool
