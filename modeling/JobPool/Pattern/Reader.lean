/-
**Reading patterns.**

A pattern is a list of branches, a branch a sequence of parts, and a part a character, an escape, a
class, a group or an assertion with any number of repetitions behind it. `PatternSyntax.ofText`
reads a whole pattern or says what is wrong with it.
-/

import JobPool.Pattern.Bracket
import JobPool.Text.Letters

namespace JobPool

/-- What has been read of a list of branches, the last part first. -/
structure BranchDraft where
  /-- Where the first branch begins. -/
  first : Place
  branches : List PatternSyntax := []
  /-- Where the last branch begins. -/
  start : Place
  parts : List PatternSyntax := []

namespace BranchDraft

/-- A draft that begins at a place. -/
def startingAt (place : Place) : BranchDraft := { first := place, start := place }

def push (draft : BranchDraft) (part : PatternSyntax) : BranchDraft :=
  { draft with parts := part :: draft.parts }

/-- The last branch, up to a place. -/
def branch (draft : BranchDraft) (stop : Place) : PatternSyntax :=
  match draft.parts with
  | [] => .empty ⟨draft.start, stop⟩
  | [part] => part
  | parts => .sequence ⟨draft.start, stop⟩ parts.reverse

/-- The draft after a bar between two places. -/
def divide (draft : BranchDraft) (stop next : Place) : BranchDraft :=
  { draft with branches := draft.branch stop :: draft.branches, start := next, parts := [] }

/-- All branches, up to a place. -/
def toSyntax (draft : BranchDraft) (stop : Place) : PatternSyntax :=
  match draft.branches with
  | [] => draft.branch stop
  | branches => .branches ⟨draft.first, stop⟩ (draft.branch stop :: branches).reverse

end BranchDraft

namespace PatternReader

/-! ## Flags and names -/

/-- The flag that a letter stands for. -/
def flagOf? (char : Char) : Option PatternFlag :=
  match char with
  | 'i' => some .caseless
  | 'm' => some .manyLines
  | 's' => some .dotMatchesAll
  | 'U' => some .swapGreed
  | 'u' => some .scripts
  | 'R' => some .returns
  | 'x' => some .loose
  | _ => none

/-- Flags up to the colon or the bracket behind them. Those behind a dash are switched off. The
dash and the flags that have been read come with their spans. -/
def flagsFrom : Nat → Option Span → List (PatternFlag × Bool × Span) →
    PatternReader (List (PatternFlag × Bool × Span))
  | 0, _, read => return read
  | limit + 1, dash, read => do
    let span ← spanOfNext
    match ← next? with
    | none => fail .flagUnfinished span
    | some ':' | some ')' =>
      match dash with
      | some dash => if read.all (·.2.1) then fail .negationDangling dash else return read
      | none => return read
    | some '-' =>
      if let some earlier := dash then fail .negationRepeated span earlier
      step
      if ← isAtEnd then fail .flagUnfinished (← here)
      flagsFrom limit (some span) read
    | some char =>
      let some flag := flagOf? char | fail .flagUnknown span
      if let some (_, _, earlier) := read.find? (·.1 = flag) then
        fail .flagDuplicate span earlier
      step
      if ← isAtEnd then fail .flagUnfinished (← here)
      flagsFrom limit dash (read ++ [(flag, dash.isNone, span)])

/-- Whether a character may stand in the name of a group, at its beginning or behind it. -/
def isNameChar (first : Bool) (char : Char) : Bool :=
  char = '_' || Text.isLetter char ||
    !first && (Text.isNumber char || char = '.' || char = '[' || char = ']')

/-- The characters of a name up to the angle behind it. -/
def nameFrom (first : Bool) : Nat → PatternReader (List Char)
  | 0 => return []
  | limit + 1 => do
    match ← next? with
    | none => fail .nameUnclosed (← here)
    | some '>' => return []
    | some char =>
      if !isNameChar first char then fail .nameCharacter (← spanOfNext)
      step
      return char :: (← nameFrom false limit)

/-- The name of a group with the angle behind it. No name is given twice. -/
def groupName : PatternReader Unit := do
  let start ← place
  if ← isAtEnd then fail .nameUnclosed (← here)
  let name ← nameFrom true ((← get).rest.length + 1)
  let span ← since start
  step
  if name.isEmpty then fail .nameEmpty ⟨start, start⟩
  if let some earlier := (← get).names.lookup name then fail .nameDuplicate span earlier
  modify fun cursor => { cursor with names := (name, span) :: cursor.names }

/-! ## Repetitions -/

/-- A number in decimal digits, with blanks around it. -/
def decimal : PatternReader (Except PatternFlaw Nat) := do
  dropBlanks
  let start ← place
  let digits ← collect Char.isDigit
  let span ← since start
  dropBlanks
  if digits.isEmpty then return .error ⟨.countNotDecimal, span, none⟩
  let number := digits.foldl (fun number digit => number * 10 + (digit.toNat - '0'.toNat)) 0
  return if number < UInt32.size then .ok number else .error ⟨.decimalTooLarge, span, none⟩

/-- The part before a repetition, taken from a draft. -/
def repeatable (draft : BranchDraft) : PatternReader (PatternSyntax × BranchDraft) := do
  match draft.parts with
  | [] | .empty _ :: _ | .flags .. :: _ => fail .nothingToRepeat (← here)
  | part :: rest => return (part, { draft with parts := rest })

/-- The sign for the shortest repetition, which changes nothing about where a pattern occurs. -/
def shortest : PatternReader Unit := do
  if ← isBefore '?' then step

/-- A repetition by one sign. -/
def signedRepetition (draft : BranchDraft) (least : Nat) (most : Option Nat) :
    PatternReader BranchDraft := do
  let (part, draft) ← repeatable draft
  step
  shortest
  return draft.push (.repetition ⟨part.span.start, ← place⟩ part least most)

/-- The counts of a repetition in braces, from the opening one at a place to the closing one. -/
def counts (start : Place) : PatternReader (Nat × Option Nat) := do
  if !(← advance) then fail .countUnclosed (← since start)
  let least ← decimal
  if ← isAtEnd then fail .countUnclosed (← since start)
  if ← isBefore ',' then
    if !(← advance) then fail .countUnclosed (← since start)
    if ← isBefore '\x7d' then return (← least, none)
    let least ← least
    let most ← decimal
    return (least, some (← most))
  let count ← least
  return (count, some count)

/-- A repetition by counts. -/
def countedRepetition (draft : BranchDraft) : PatternReader BranchDraft := do
  let start ← place
  let (part, draft) ← repeatable draft
  let (least, most) ← counts start
  if !(← isBefore '\x7d') then fail .countUnclosed (← since start)
  let _ ← advance
  shortest
  let span ← since start
  if most.any (· < least) then fail .countReversed span
  return draft.push (.repetition ⟨part.span.start, span.stop⟩ part least most)

/-! ## Groups and branches -/

/-- The ways to look around, none of which is available. -/
def lookArounds : List (List Char) := [['?', '='], ['?', '!'], ['?', '<', '='], ['?', '<', '!']]

/-- The beginning of a group behind its bracket: flags for the rest of the group around it, or
whether the new group captures and the flags for it. -/
def openGroup (opening : Span) : PatternReader (PatternSyntax ⊕ (Bool × FlagChanges)) := do
  skipBlanks
  for sign in lookArounds do
    if ← take? sign then fail .lookAround ⟨opening.start, ← place⟩
  let inner ← here
  if (← take? ['?', 'P', '<']) || (← take? ['?', '<']) then
    groupName
    return .inr (true, [])
  if !(← take? ['?']) then return .inr (true, [])
  if ← isAtEnd then fail .groupUnclosed opening
  let read ← flagsFrom ((← get).rest.length + 1) none []
  let changes := read.map fun (flag, value, _) => (flag, value)
  let closes ← isBefore ')'
  step
  if !closes then return .inr (false, changes)
  if changes.isEmpty then fail .nothingToRepeat inner
  return .inl (.flags ⟨opening.start, ← place⟩ changes)

/-- Makes the changes that concern the reader itself. -/
def applyLoose (changes : FlagChanges) : PatternReader Unit := do
  if let some loose := changes.lookup .loose then
    modify fun cursor => { cursor with loose }

/-- A part that neither groups nor repeats nor divides. -/
def simplePart : PatternReader PatternSyntax := do
  let span ← spanOfNext
  match ← next? with
  | some '\\' => escape
  | some '.' =>
    step
    return .dot span
  | some '^' =>
    step
    return .assertion span .lineStart
  | some '$' =>
    step
    return .assertion span .lineStop
  | some char =>
    step
    return .literal ⟨span, char, false⟩
  | none => return .empty span

/-- Branches up to the end of a group, or of the pattern where no group is open. -/
def branches : Nat → Option Span → BranchDraft → PatternReader PatternSyntax
  | 0, _, draft => return draft.toSyntax (← place)
  | limit + 1, group, draft => do
    skipBlanks
    match ← next? with
    | none =>
      match group with
      | some opening => fail .groupUnclosed opening
      | none => return draft.toSyntax (← place)
    | some ')' =>
      if group.isNone then fail .groupUnopened (← spanOfNext)
      return draft.toSyntax (← place)
    | some '|' =>
      let stop ← place
      step
      branches limit group (draft.divide stop (← place))
    | some '(' =>
      let opening ← spanOfNext
      step
      match ← openGroup opening with
      | .inl flags =>
        if let .flags _ changes := flags then applyLoose changes
        branches limit group (draft.push flags)
      | .inr (captures, changes) =>
        let loose := (← get).loose
        applyLoose changes
        let inner ← branches limit (some opening) (.startingAt (← place))
        modify fun cursor => { cursor with loose }
        step
        branches limit group
          (draft.push (.group ⟨opening.start, ← place⟩ changes captures inner))
    | some '[' =>
      match ← bracket (2 * (← get).rest.length + 2) with
      | .bracketed span negated inner =>
        branches limit group (draft.push (.bracketed span negated inner))
      | other => branches limit group (draft.push (.bracketed other.span false other))
    | some '?' => branches limit group (← signedRepetition draft 0 (some 1))
    | some '*' => branches limit group (← signedRepetition draft 0 none)
    | some '+' => branches limit group (← signedRepetition draft 1 none)
    | some '\x7b' => branches limit group (← countedRepetition draft)
    | some _ => branches limit group (draft.push (← simplePart))

end PatternReader

namespace PatternSyntax

/-- The depth to which the parts of a pattern may be nested. -/
def depthLimit : Nat := 250

/-- Reads a whole pattern. -/
def ofText (text : List Char) : Except PatternFlaw PatternSyntax := do
  let (read, _) ←
    (PatternReader.branches (text.length + 1) none (.startingAt {})).run { rest := text }
  match read.tooDeep? depthLimit 0 with
  | some span => .error ⟨.nestedTooDeep depthLimit, span, none⟩
  | none => return read

end PatternSyntax

end JobPool
