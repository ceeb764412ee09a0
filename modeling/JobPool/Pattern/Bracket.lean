/-
**Classes in brackets.**

A class in brackets holds characters, ranges, escapes, named classes and further brackets. Two
ampersands, dashes or tildes between parts intersect or subtract the classes on both sides. A dash
or a closing bracket at the beginning stands for itself.
-/

import JobPool.Pattern.Escape

namespace JobPool

/-- The parts of a class read since the last operation, the last one first. -/
structure ClassUnion where
  span : Span
  items : List ClassSyntax := []

namespace ClassUnion

def push (union : ClassUnion) (item : ClassSyntax) : ClassUnion :=
  { span :=
      { start := if union.items.isEmpty then item.span.start else union.span.start
        stop := item.span.stop }
    items := item :: union.items }

/-- The parts as one class. -/
def toClass (union : ClassUnion) : ClassSyntax :=
  match union.items with
  | [] => .empty union.span
  | [item] => item
  | items => .union union.span items.reverse

end ClassUnion

/-- The operation and the class on its left that wait for the class on the right. -/
abbrev PendingOperation := Option (ClassOperation × ClassSyntax)

/-- The class that an operation makes with its right side. -/
def ClassSyntax.complete (pending : PendingOperation) (right : ClassSyntax) : ClassSyntax :=
  match pending with
  | none => right
  | some (kind, left) => .operation ⟨left.span.start, right.span.stop⟩ kind left right

namespace PatternReader

/-- A part of a class as a class. -/
def asItem : PatternSyntax → PatternReader ClassSyntax
  | .literal literal => return .literal literal
  | .letter span kind negated => return .letter span kind negated
  | .property span name alone => return .property span name alone
  | other => fail .classEscape other.span

/-- A part of a class as the end of a range. -/
def asBound : PatternSyntax → PatternReader LiteralSyntax
  | .literal literal => return literal
  | other => fail .rangeBound other.span

/-- A character or an escape in a class. -/
def classPart : PatternReader PatternSyntax := do
  let span ← spanOfNext
  match ← next? with
  | some '\\' => escape
  | some char =>
    step
    return .literal ⟨span, char, false⟩
  | none => return .empty span

/-- A range, or a part of a class that is none. The span is that of the class for as far as it was
opened. -/
def classRange (opening : Span) : PatternReader ClassSyntax := do
  let first ← classPart
  skipBlanks
  if ← isAtEnd then fail .classUnclosed opening
  let second := (← get).secondPart?
  if !(← isBefore '-') || second = some ']' || second = some '-' then return ← asItem first
  if !(← advance) then fail .classUnclosed opening
  let last ← classPart
  let span : Span := ⟨first.span.start, last.span.stop⟩
  let low ← asBound first
  let high ← asBound last
  if high.char < low.char then fail .rangeReversed span
  return .range span low high

/-- A named class of ASCII characters, from its bracket on. Where none stands the cursor does not
move. -/
def namedClass? : PatternReader (Option ClassSyntax) := do
  let before ← get
  if !(← take? ['[', ':']) then return none
  let negated ← take? ['^']
  let text := (← get).rest
  let name := text.takeWhile (· ≠ ':')
  name.forM fun _ => step
  match NamedClass.all.find? fun kind => kind.name.toList = name with
  | some kind =>
    if ← take? [':', ']'] then return some (.named (← since before.place) kind negated)
    set before
    return none
  | none =>
    set before
    return none

/-- Dashes at the beginning of a class. -/
def leadingDashes (start : Place) : Nat → ClassUnion → PatternReader ClassUnion
  | 0, union => return union
  | limit + 1, union => do
    if !(← isBefore '-') then return union
    let union := union.push (.literal ⟨← spanOfNext, '-', false⟩)
    if !(← advance) then fail .classUnclosed ⟨start, start⟩
    leadingDashes start limit union

/-- The beginning of a class in brackets: whether it is negated, and the characters that stand for
themselves there. -/
def openClass : PatternReader (Bool × ClassUnion) := do
  let start ← place
  if !(← advance) then fail .classUnclosed (← since start)
  let negated ← isBefore '^'
  if negated then
    if !(← advance) then fail .classUnclosed (← since start)
  let union ← leadingDashes start (← get).rest.length ⟨← here, []⟩
  if union.items.isEmpty && (← isBefore ']') then
    let union := union.push (.literal ⟨← spanOfNext, ']', false⟩)
    if !(← advance) then fail .classUnclosed (← since start)
    return (negated, union)
  return (negated, union)

/-- The operation that comes next, if one does. -/
def operation? : PatternReader (Option ClassOperation) := do
  if ← take? ['&', '&'] then return some .intersection
  if ← take? ['-', '-'] then return some .difference
  if ← take? ['~', '~'] then return some .symmetricDifference
  return none

mutual

/-- A class in brackets. The number bounds the parts that are read. -/
def bracket : Nat → PatternReader ClassSyntax
  | 0 => do fail .classUnclosed (← here)
  | limit + 1 => do
    let start ← place
    let (negated, union) ← openClass
    let inner ← classParts limit (← since start) none union
    step
    return .bracketed (← since start) negated inner

/-- The parts of a class up to its closing bracket. -/
def classParts (limit : Nat) (opening : Span) (pending : PendingOperation) (union : ClassUnion) :
    PatternReader ClassSyntax :=
  match limit with
  | 0 => fail .classUnclosed opening
  | limit + 1 => do
    skipBlanks
    match ← next? with
    | none => fail .classUnclosed opening
    | some ']' => return .complete pending union.toClass
    | some '[' =>
      match ← namedClass? with
      | some named => classParts limit opening pending (union.push named)
      | none =>
        let inner ← bracket limit
        classParts limit opening pending (union.push inner)
    | some _ =>
      match ← operation? with
      | some kind =>
        classParts limit opening (some (kind, .complete pending union.toClass)) ⟨← here, []⟩
      | none =>
        let item ← classRange opening
        classParts limit opening pending (union.push item)

end

end PatternReader

end JobPool
