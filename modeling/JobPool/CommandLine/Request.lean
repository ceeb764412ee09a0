/-
**Commands.**

The arguments of the program ask for the help on a topic, the version, the settings, or a
demonstration with some options. Arguments that ask for none of these have a fault, whose message
shows what is wrong as a terminal would show it.
-/

import JobPool.Demo
import JobPool.Text.Terminal

namespace JobPool

/-- What the help can be about. -/
inductive HelpTopic where
  | program
  | run
  | config
  | help
  deriving DecidableEq, Repr

/-- What the arguments ask for. -/
inductive Command where
  | help (topic : HelpTopic)
  /-- No command was given. -/
  | missing
  | version
  | config
  | run (plan : DemoPlan)

/-- Why a value of an option cannot be read. -/
inductive ValueFault where
  | emptyInteger
  | notDigit
  | tooLarge
  | emptyNumber
  | notNumber
  deriving DecidableEq, Repr

def ValueFault.message : ValueFault → String
  | .emptyInteger => "cannot parse integer from empty string"
  | .notDigit => "invalid digit found in string"
  | .tooLarge => "number too large to fit in target type"
  | .emptyNumber => "cannot parse float from empty string"
  | .notNumber => "invalid float literal"

/-- The options of a demonstration. -/
inductive RunOption where
  | workers
  | jobs
  | jobMillis
  | slowdown
  | failEvery
  deriving DecidableEq, Repr

namespace RunOption

def all : List RunOption := [workers, jobs, jobMillis, slowdown, failEvery]

def name : RunOption → String
  | workers => "workers"
  | jobs => "jobs"
  | jobMillis => "job-millis"
  | slowdown => "slowdown"
  | failEvery => "fail-every"

/-- The option with the place of its value. -/
def usage : RunOption → String
  | workers => "--workers <WORKERS>"
  | jobs => "--jobs <JOBS>"
  | jobMillis => "--job-millis <JOB_MILLIS>"
  | slowdown => "--slowdown <SLOWDOWN>"
  | failEvery => "--fail-every <FAIL_EVERY>"

/-- Later occurrences of the option add to the earlier ones. -/
def repeats : RunOption → Bool
  | slowdown => true
  | workers | jobs | jobMillis | failEvery => false

end RunOption

/-- What is wrong with the arguments. -/
inductive UsageFault where
  | unexpectedArgument (argument : String)
  | unknownCommand (name : String)
  | missingValue (option : RunOption)
  | badValue (option : RunOption) (value : String) (fault : ValueFault)
  | repeatedOption (option : RunOption)
  | unneededValue (flag value : String)
  deriving DecidableEq, Repr

/-- A part of the arguments in a message. -/
def UsageFault.shown (part : String) : String := String.ofList (Text.stripped part.toList)

def UsageFault.message : UsageFault → String
  | .unexpectedArgument argument => s!"unexpected argument '{shown argument}' found"
  | .unknownCommand name => s!"unrecognized subcommand '{shown name}'"
  | .missingValue option => s!"a value is required for '{option.usage}' but none was supplied"
  | .badValue option value fault =>
    s!"invalid value '{shown value}' for '{option.usage}': {fault.message}"
  | .repeatedOption option => s!"the argument '{option.usage}' cannot be used multiple times"
  | .unneededValue flag value =>
    s!"unexpected value '{shown value}' for '{flag}' found; no more were expected"

/-- The help on a topic in lines. -/
def HelpTopic.lines : HelpTopic → List String
  | .program =>
    ["Adaptive master/worker job dispatch",
      "",
      "Usage: maw <COMMAND>",
      "",
      "Commands:",
      "  run     Run simulated jobs on an in-process cluster",
      "  config  Print the configuration loaded from the environment as JSON",
      "  help    Print this message or the help of the given subcommand(s)",
      "",
      "Options:",
      "  -h, --help     Print help",
      "  -V, --version  Print version"]
  | .run =>
    ["Run simulated jobs on an in-process cluster",
      "",
      "Usage: maw run [OPTIONS]",
      "",
      "Options:",
      "      --workers <WORKERS>        The number of worker nodes [default: 3]",
      "      --jobs <JOBS>              The number of jobs to submit [default: 30]",
      "      --job-millis <JOB_MILLIS>  The base duration of each job [default: 300]",
      "      --slowdown <SLOWDOWN>      Comma-separated slowdown factors of the workers, 1.0 " ++
        "by default",
      "      --fail-every <FAIL_EVERY>  Make every N-th job fail, or 0 for no failures " ++
        "[default: 0]",
      "  -h, --help                     Print help"]
  | .config =>
    ["Print the configuration loaded from the environment as JSON",
      "",
      "Usage: maw config",
      "",
      "Options:",
      "  -h, --help  Print help"]
  | .help =>
    ["Print this message or the help of the given subcommand(s)",
      "",
      "Usage: maw help [COMMAND]...",
      "",
      "Arguments:",
      "  [COMMAND]...  Print help for the subcommand(s)"]

end JobPool
