/-
**What can be wrong with settings.**

A value may not fit its key: it has the wrong type, is negative, names no known choice, or is a
sequence that is too short. A mismatch is reported with the path of keys at which it was found. A
value that fits may still be out of range, which is checked after all values have been read.
-/

import JobPool.Decimal.Shortest
import JobPool.Settings.Value
import JobPool.Text.Quoted

namespace JobPool

/-- A value that does not fit its key. -/
inductive Mismatch where
  | type (found : Setting) (expected : String)
  | negative (found : Int) (expected : String)
  | choice (found : String) (choices : List String)
  | length (found : Nat) (expected : String)

/-- A mismatch and the path of keys to it. -/
structure Misfit where
  path : List String
  mismatch : Mismatch

/-- A fault in the settings of a pool. -/
inductive SettingsFault where
  | unreadable (misfit : Misfit)
  /-- A value cannot be read at all, which ends the program that asks for it. -/
  | misplacedCut (cut : Setting.MisplacedCut)
  | noCapacity
  | alphaOutOfRange (alpha : Float)
  | ratioOutOfRange (ratio : Float)
  | noSleepInterval
  /-- A fault stated in its own words. -/
  | stated (detail : String)

/-- The kinds of fault in settings that a caller can tell apart. -/
inductive SettingsFaultKind where
  | configuration
  | invalidArgument
  /-- The program that meets the fault cannot go on. -/
  | breakdown
  deriving DecidableEq, Repr

/-- The words with which the message of a kind begins. -/
def SettingsFaultKind.lead : SettingsFaultKind → String
  | configuration => "failed to load configuration: "
  | invalidArgument => "invalid argument: "
  | breakdown => ""

/-- How a value is named in a report. -/
def Setting.describe : Setting → String
  | .truth value => s!"bool {value}"
  | .natural value => s!"unsigned int `{value}`"
  | .integer value => s!"signed int `{value}`"
  | .real value => "float `" ++ Decimal.plain value ++ "`"
  | .text value => "string " ++ Text.quoted value
  | .character value => "string " ++ Text.quoted (String.singleton value)
  | .sequence _ => "sequence"
  | .table _ => "map"

namespace Mismatch

/-- The choices of a setting in a report. -/
def listed (choices : List String) : String :=
  let named := choices.map fun choice => "`" ++ choice ++ "`"
  match named with
  | [first, second] => first ++ " or " ++ second
  | _ => (if choices.length = 1 then "" else "one of ") ++ ", ".intercalate named

def text : Mismatch → String
  | .type found expected => s!"invalid type: found {found.describe}, expected {expected}"
  | .negative found expected => s!"invalid value signed int `{found}`, expected {expected}"
  | .choice found choices => s!"unknown variant: found `{found}`, expected `{listed choices}`"
  | .length found expected => s!"invalid length {found}, expected {expected}"

end Mismatch

/-- Names the character in the way of the cut. A long text is shown in part. -/
def Setting.MisplacedCut.message (cut : MisplacedCut) : String :=
  let place := match Text.charAround? cut.byte 0 cut.text with
    | some (start, char) =>
      s!"it is inside '{String.ofList (Text.quotedChar char)}' " ++
        s!"(bytes {start}..{start + char.utf8Size})"
    | none => "it is behind the end"
  let shown := Text.takeWithin 256 cut.text
  let ellipsis := if shown.length < cut.text.length then "[...]" else ""
  s!"end byte index {cut.byte} is not a char boundary; {place} of `" ++ String.ofList shown ++
    "`" ++ ellipsis

namespace Misfit

/-- A mismatch at the value itself. -/
def here (mismatch : Mismatch) : Misfit := ⟨[], mismatch⟩

/-- The mismatch seen from the value that holds the key. -/
def under (key : String) (misfit : Misfit) : Misfit := { misfit with path := key :: misfit.path }

def text (misfit : Misfit) : String :=
  let path := (".".intercalate misfit.path).map Char.toUpper
  misfit.mismatch.text ++ " for key " ++ Text.quoted path ++ " in `MAW__` environment variable(s)"

end Misfit

namespace SettingsFault

def kind : SettingsFault → SettingsFaultKind
  | unreadable _ => .configuration
  | misplacedCut _ => .breakdown
  | noCapacity | alphaOutOfRange _ | ratioOutOfRange _ | noSleepInterval | stated _ =>
    .invalidArgument

/-- The words after the lead of the kind. -/
def detail : SettingsFault → String
  | unreadable misfit => misfit.text
  | misplacedCut cut => cut.message
  | noCapacity => "scheduler.max_outstanding_per_worker must be positive"
  | alphaOutOfRange alpha =>
    "estimator.decay_alpha must be in the range (0, 1), got " ++ Decimal.plain alpha
  | ratioOutOfRange ratio =>
    "engine.long_sleep_ratio must be in the range (0, 1], got " ++ Decimal.plain ratio
  | noSleepInterval => "engine.sleep_interval_millis must be positive"
  | stated detail => detail

def message (fault : SettingsFault) : String := fault.kind.lead ++ fault.detail

end SettingsFault

end JobPool
