/-
**Reading arguments.**

The first argument names a command or asks for help or the version. A demonstration takes options,
each with a value: after an equals sign, or as the next argument unless that looks like an option.
After two dashes nothing is an option any more.

A value that stands apart is read when the next option begins or the arguments end, so an argument
that does not belong here counts before it.
-/

import JobPool.CommandLine.Request
import JobPool.Decimal.Reader
import JobPool.Text.Pieces

namespace JobPool

/-! ## Values -/

namespace ValueFault

/-- Reads the digits of a word below `2 ^ 64`. The leftmost fault counts. -/
def readDigits (value : Nat) : List Char → Except ValueFault Nat
  | [] => .ok value
  | char :: rest =>
    let next := value * 10 + (char.toNat - '0'.toNat)
    if !char.isDigit then .error .notDigit
    else if next < UInt64.size then readDigits next rest
    else .error .tooLarge

/-- Reads a natural number below `2 ^ 64`, which may have a plus sign. -/
def readInteger (text : String) : Except ValueFault Nat :=
  match text.toList with
  | [] => .error .emptyInteger
  | ['+'] => .error .notDigit
  | '+' :: digits => readDigits 0 digits
  | digits => readDigits 0 digits

/-- Reads a binary64 number. -/
def readNumber (text : String) : Except ValueFault Float :=
  if text.isEmpty then .error .emptyNumber
  else
    match Decimal.readFloat? text.toList with
    | some number => .ok number
    | none => .error .notNumber

end ValueFault

namespace DemoPlan

/-- Reads the value of an option. The numbers of a list are separated by commas. -/
def set (plan : DemoPlan) (option : RunOption) (value : String) : Except UsageFault DemoPlan :=
  let integer := (ValueFault.readInteger value).mapError (.badValue option value)
  match option with
  | .workers => return { plan with workers := ← integer }
  | .jobs => return { plan with jobs := ← integer }
  | .jobMillis => return { plan with jobMillis := ← integer }
  | .failEvery => return { plan with failEvery := ← integer }
  | .slowdown => do
    let factors ← (Text.pieces ',' value.toList).mapM fun piece =>
      (ValueFault.readNumber (String.ofList piece)).mapError
        (.badValue option (String.ofList piece))
    return { plan with slowdown := plan.slowdown ++ factors }

end DemoPlan

/-! ## Shapes of arguments -/

/-- What an argument looks like. -/
inductive ArgumentShape where
  /-- Two dashes alone. -/
  | divider
  /-- Two dashes and a name, with a value after an equals sign. -/
  | long (name : String) (value : Option String)
  /-- One dash and some letters. -/
  | short (first : Char) (rest : List Char)
  | word
  deriving DecidableEq, Repr

/-- A text before and after the first equals sign. -/
def splitValue (text : List Char) : List Char × Option (List Char) :=
  match text.dropWhile (· ≠ '=') with
  | [] => (text, none)
  | _ :: value => (text.takeWhile (· ≠ '='), some value)

def ArgumentShape.of (argument : String) : ArgumentShape :=
  match argument.toList with
  | ['-', '-'] => .divider
  | '-' :: '-' :: text =>
    let (name, value) := splitValue text
    .long (String.ofList name) (value.map String.ofList)
  | '-' :: first :: rest => .short first rest
  | _ => .word

/-! ## The options of a demonstration -/

/-- The options read so far. -/
structure RunDraft where
  plan : DemoPlan := {}
  given : List RunOption := []
  /-- The last option and its value, if it has come. -/
  pending : Option (RunOption × Option String) := none

namespace RunDraft

/-- Takes in an option with its value. -/
def enter (draft : RunDraft) (option : RunOption) (value : String) :
    Except UsageFault RunDraft := do
  if draft.given.contains option && !option.repeats then throw (.repeatedOption option)
  return { plan := ← draft.plan.set option value, given := option :: draft.given }

/-- Takes in the option that stands last. -/
def resolve (draft : RunDraft) : Except UsageFault RunDraft :=
  match draft.pending with
  | none => .ok draft
  | some (option, none) => .error (.missingValue option)
  | some (option, some value) => ({ draft with pending := none } : RunDraft).enter option value

/-- Reads the arguments of a demonstration. -/
def read (draft : RunDraft) : List String → Except UsageFault Command
  | [] => return .run (← draft.resolve).plan
  | argument :: rest =>
    match ArgumentShape.of argument with
    | .divider =>
      match rest with
      | [] => return .run (← draft.resolve).plan
      | next :: _ => .error (.unexpectedArgument next)
    | .long name value =>
      match RunOption.all.find? fun option => option.name = name with
      | some option => do
        let draft ← draft.resolve
        match value with
        | some value => (← draft.enter option value).read rest
        | none => ({ draft with pending := some (option, none) } : RunDraft).read rest
      | none =>
        match name, value with
        | "help", none => do
          let _ ← draft.resolve
          return .help .run
        | "help", some value => .error (.unneededValue "--help" value)
        | _, _ => .error (.unexpectedArgument ("--" ++ name))
    | .short 'h' _ => do
      let _ ← draft.resolve
      return .help .run
    | .short first _ => .error (.unexpectedArgument (String.ofList ['-', first]))
    | .word =>
      match draft.pending with
      | some (option, none) =>
        ({ draft with pending := some (option, some argument) } : RunDraft).read rest
      | some (_, some _) | none => .error (.unexpectedArgument argument)

end RunDraft

/-! ## Commands -/

namespace Command

/-- Reads the arguments of a command without options. -/
def readBare (topic : HelpTopic) (command : Command) : List String → Except UsageFault Command
  | [] => .ok command
  | argument :: rest =>
    match ArgumentShape.of argument with
    | .divider =>
      match rest with
      | [] => .ok command
      | next :: _ => .error (.unexpectedArgument next)
    | .long "help" none => .ok (.help topic)
    | .long "help" (some value) => .error (.unneededValue "--help" value)
    | .long name _ => .error (.unexpectedArgument ("--" ++ name))
    | .short 'h' _ => .ok (.help topic)
    | .short first _ => .error (.unexpectedArgument (String.ofList ['-', first]))
    | .word => .error (.unexpectedArgument argument)

/-- The topic that a command's name stands for. -/
def topic? (name : String) : Option HelpTopic :=
  match name with
  | "run" => some .run
  | "config" => some .config
  | "help" => some .help
  | _ => none

/-- Reads the names after the command for help. -/
def readHelp : List String → Except UsageFault Command
  | [] => .ok (.help .program)
  | [name] =>
    match topic? name with
    | some topic => .ok (.help topic)
    | none => .error (.unknownCommand name)
  | name :: next :: _ =>
    match topic? name with
    | some _ => .error (.unknownCommand next)
    | none => .error (.unknownCommand name)

/-- Reads the arguments of the program. -/
def read : List String → Except UsageFault Command
  | [] => .ok .missing
  | argument :: rest =>
    match topic? argument with
    | some .run => ({} : RunDraft).read rest
    | some .config => readBare .config .config rest
    | some .help => readHelp rest
    | some .program | none =>
      match ArgumentShape.of argument with
      | .divider =>
        match rest with
        | [] => .ok .missing
        | next :: _ =>
          if (topic? next).isSome then .error (.unexpectedArgument next)
          else .error (.unknownCommand next)
      | .long "help" none => .ok (.help .program)
      | .long "version" none => .ok .version
      | .long "help" (some value) => .error (.unneededValue "--help" value)
      | .long "version" (some value) => .error (.unneededValue "--version" value)
      | .long name _ => .error (.unexpectedArgument ("--" ++ name))
      | .short 'h' _ => .ok (.help .program)
      | .short 'V' _ => .ok .version
      | .short first _ => .error (.unexpectedArgument (String.ofList ['-', first]))
      | .word => .error (.unknownCommand argument)

end Command

end JobPool
