/-
**Log filters.**

A filter is a list of rules. A rule names the least urgent level that is admitted, for every target
or for the targets that begin with a given text; of the rules that fit a target the longest decides,
and a target that none fits is refused. After a slash a filter may hold a pattern that has to occur
in every admitted record.

`LogFilter.ofSpec` reads a filter such as `info` or `app=debug,app::store=off`. What it cannot read
it leaves out with a complaint. A filter without rules admits errors.
-/

import JobPool.Pattern.Matching
import JobPool.Text.Blank
import JobPool.Text.Pieces
import JobPool.Trace

namespace JobPool

/-- One rule of a filter. -/
structure FilterRule where
  /-- What the targets of the rule begin with, none for every target. -/
  scope : Option String
  /-- The least urgent level that is admitted, none for no level at all. -/
  least : Option LogLevel
  deriving DecidableEq, Repr

namespace FilterRule

/-- The length of the scope in bytes. -/
def weight (rule : FilterRule) : Nat :=
  match rule.scope with
  | some scope => scope.utf8ByteSize
  | none => 0

def fits (rule : FilterRule) (target : String) : Bool :=
  match rule.scope with
  | some scope => scope.toList.isPrefixOf target.toList
  | none => true

def admits (rule : FilterRule) (level : LogLevel) : Bool :=
  match rule.least with
  | some least => level.rank ≤ least.rank
  | none => false

end FilterRule

/-- Rules from the shortest scope to the longest, with the pattern that has to occur in records. -/
structure LogFilter where
  rules : List FilterRule
  content : Option Pattern := none

namespace LogFilter

/-! ## Filtering -/

/-- The rule that decides about a target. -/
def rule? (filter : LogFilter) (target : String) : Option FilterRule :=
  filter.rules.reverse.find? fun rule => rule.fits target

/-- The filter lets a record through. -/
def admits (filter : LogFilter) (level : LogLevel) (target text : String) : Bool :=
  (match filter.rule? target with
    | some rule => rule.admits level
    | none => false) &&
  match filter.content with
  | some pattern => pattern.occursIn text
  | none => true

/-! ## Reading -/

/-- A level or the word for none, in any case. -/
def readLevel? (word : List Char) : Option (Option LogLevel) :=
  match String.ofList (word.map Char.toUpper) with
  | "OFF" => some none
  | "ERROR" => some (some .error)
  | "WARN" => some (some .warn)
  | "INFO" => some (some .info)
  | "DEBUG" => some (some .debug)
  | "TRACE" => some (some .trace)
  | _ => none

/-- A complaint about a part of a filter that cannot be read. -/
def complaint (part : List Char) : String :=
  "invalid logging spec '" ++ String.ofList part ++ "'"

/-- Reads one rule: a level, a scope, or a scope and a level. -/
def readRule (part : List Char) : Except String FilterRule :=
  match Text.pieces '=' part with
  | [word] =>
    match readLevel? word with
    | some least => .ok ⟨none, least⟩
    | none => .ok ⟨some (String.ofList word), some .trace⟩
  | [scope, word] =>
    let word := Text.trim word
    if word.isEmpty then .ok ⟨some (String.ofList scope), some .trace⟩
    else
      match readLevel? word with
      | some least => .ok ⟨some (String.ofList scope), least⟩
      | none => .error (complaint word)
  | _ => .error (complaint part)

/-- Enters a rule: in the place of an earlier one with the same scope, else at the end. -/
def enter (rules : List FilterRule) (rule : FilterRule) : List FilterRule :=
  if rules.any fun listed => listed.scope = rule.scope then
    rules.map fun listed => if listed.scope = rule.scope then rule else listed
  else rules ++ [rule]

/-- The filter of some rules, shorter scopes first. Without a rule it admits errors. -/
def ofRules (rules : List FilterRule) (content : Option Pattern) : LogFilter :=
  { rules :=
      if rules.isEmpty then [⟨none, some .error⟩]
      else rules.mergeSort fun first second => first.weight ≤ second.weight
    content := content }

/-- Reads the pattern behind the slash, with the complaint about one that cannot be used. -/
def readContent (text : Option (List Char)) : Option Pattern × List String :=
  match text with
  | none => (none, [])
  | some text =>
    match Pattern.ofText text with
    | .ok pattern => (some pattern, [])
    | .error fault => (none, ["invalid regex filter - " ++ fault.message text])

/-- Reads a filter, with the complaints about what was left out. -/
def ofSpec (spec : String) : LogFilter × List String :=
  match Text.pieces '/' spec.toList with
  | rules :: content =>
    if 1 < content.length then
      (ofRules [] none, [complaint spec.toList ++ " (too many '/'s)"])
    else
      let read := (((Text.pieces ',' rules).map Text.trim).filter (!·.isEmpty)).map readRule
      let good := read.filterMap fun
        | .ok rule => some rule
        | .error _ => none
      let complaints := read.filterMap fun
        | .ok _ => none
        | .error complaint => some complaint
      let (pattern, objections) := readContent content.head?
      (ofRules (good.foldl enter []) pattern, complaints ++ objections)
  | [] => (ofRules [] none, [])

end LogFilter

end JobPool
