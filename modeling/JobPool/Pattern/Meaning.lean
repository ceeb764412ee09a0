/-
**What patterns mean.**

A pattern is a language of places: from a place in a text it leads to the places at which it may
end. `Pattern` holds what matters for that, after the flags have been worked in. `Pattern.ofText`
reads a pattern and finds its meaning or the first fault.

Characters of all scripts are compared one by one. What would need tables of their properties is not
available: their classes, their word boundaries, and the comparison without regard to case. With
those scripts switched off, classes hold ASCII characters only.
-/

import JobPool.Pattern.Reader

namespace JobPool

/-- A condition on a place of a text. -/
inductive PlaceCondition where
  | textStart
  | textStop
  /-- Behind a line feed, or behind any line end if returns count. -/
  | lineStart (returns : Bool)
  | lineStop (returns : Bool)
  | boundary (kind : BoundaryKind) (scripts : Bool)
  deriving DecidableEq, Repr

/-- The meaning of a pattern. -/
inductive Pattern where
  | empty
  /-- One character that is accepted, with a measure of the class it belongs to. -/
  | one (accepts : Char → Bool) (weight : Nat)
  | condition (needed : PlaceCondition)
  | group (part : Pattern)
  | followed (first second : Pattern)
  | either (first second : Pattern)
  | repeated (least : Nat) (most : Option Nat) (part : Pattern)

/-- The flags in force. -/
structure PatternModes where
  caseless : Bool := false
  manyLines : Bool := false
  dotMatchesAll : Bool := false
  returns : Bool := false
  scripts : Bool := true
  deriving DecidableEq, Repr

namespace PatternModes

/-- The flags after one change. -/
def set (modes : PatternModes) : PatternFlag × Bool → PatternModes
  | (.caseless, value) => { modes with caseless := value }
  | (.manyLines, value) => { modes with manyLines := value }
  | (.dotMatchesAll, value) => { modes with dotMatchesAll := value }
  | (.returns, value) => { modes with returns := value }
  | (.scripts, value) => { modes with scripts := value }
  | (.swapGreed, _) | (.loose, _) => modes

def setAll (modes : PatternModes) (changes : FlagChanges) : PatternModes := changes.foldl set modes

end PatternModes

/-! ## Classes of characters -/

/-- A set of characters. It is void if nothing was put into it. -/
structure CharacterClass where
  accepts : Char → Bool
  isVoid : Bool := false
  /-- How many parts it was made of. -/
  weight : Nat := 1

namespace CharacterClass

def none : CharacterClass := { accepts := fun _ => false, isVoid := true, weight := 0 }

def single (char : Char) : CharacterClass := { accepts := (· = char) }

def range (first last : Char) : CharacterClass :=
  { accepts := fun char => first ≤ char && char ≤ last }

def union (first second : CharacterClass) : CharacterClass :=
  { accepts := fun char => first.accepts char || second.accepts char
    isVoid := first.isVoid && second.isVoid
    weight := first.weight + second.weight }

def negation (inner : CharacterClass) : CharacterClass :=
  { accepts := fun char => !inner.accepts char, weight := inner.weight + 1 }

def operate (kind : ClassOperation) (left right : CharacterClass) : CharacterClass :=
  { accepts := fun char =>
      match kind with
      | .intersection => left.accepts char && right.accepts char
      | .difference => left.accepts char && !right.accepts char
      | .symmetricDifference => left.accepts char != right.accepts char
    isVoid := left.isVoid && right.isVoid
    weight := left.weight + right.weight }

/-- The class with the ASCII letters of both cases for each one. -/
def withBothCases (inner : CharacterClass) : CharacterClass :=
  { inner with
    accepts := fun char =>
      inner.accepts char || inner.accepts char.toLower || inner.accepts char.toUpper }

/-- No byte above the ASCII characters belongs to the class. -/
def isAscii (inner : CharacterClass) : Bool :=
  (List.range 128).all fun code => !inner.accepts (Char.ofNat (code + 128))

end CharacterClass

/-- The ASCII characters of a class with a letter. -/
def LetterClass.accepts : LetterClass → Char → Bool
  | digit, char => char.isDigit
  | space, char => char = ' ' || '\t' ≤ char && char ≤ '\r'
  | word, char => char.isAlphanum || char = '_'

def NamedClass.accepts (kind : NamedClass) (char : Char) : Bool :=
  match kind with
  | alnum => char.isAlphanum
  | alpha => char.isAlpha
  | ascii => char.toNat < 0x80
  | blank => char = '\t' || char = ' '
  | cntrl => char.toNat < 0x20 || char = '\x7f'
  | digit => char.isDigit
  | graph => '!' ≤ char && char ≤ '~'
  | lower => char.isLower
  | print => ' ' ≤ char && char ≤ '~'
  | punct => '!' ≤ char && char ≤ '~' && !char.isAlphanum
  | space => char = ' ' || '\t' ≤ char && char ≤ '\r'
  | upper => char.isUpper
  | word => char.isAlphanum || char = '_'
  | xdigit => char.isDigit || 'a' ≤ char && char ≤ 'f' || 'A' ≤ char && char ≤ 'F'

namespace PatternModes

/-- Ends with a flaw. -/
def fail {α : Type} (problem : PatternProblem) (span : Span) : Except PatternFlaw α :=
  .error ⟨problem, span, none⟩

/-- A character as the flags let it be written. -/
def character (modes : PatternModes) (literal : LiteralSyntax) : Except PatternFlaw Char :=
  if !modes.scripts && literal.isByte && 0x80 ≤ literal.char.toNat then
    fail .brokenText literal.span
  else .ok literal.char

/-- A character of a class. -/
def member (modes : PatternModes) (literal : LiteralSyntax) : Except PatternFlaw Char := do
  let char ← modes.character literal
  if !modes.scripts && 0x80 ≤ char.toNat then fail .scriptsNotAllowed literal.span
  else return char

/-- A class without regard to case, if that is in force. -/
def fold (modes : PatternModes) (span : Span) (inner : CharacterClass) :
    Except PatternFlaw CharacterClass :=
  if !modes.caseless then .ok inner
  else if !modes.scripts then .ok inner.withBothCases
  else if inner.isVoid then .ok inner
  else fail .caseUnavailable span

/-- A class without regard to case, if that is in force, and then negated if asked. -/
def complete (modes : PatternModes) (span : Span) (negated : Bool) (inner : CharacterClass) :
    Except PatternFlaw CharacterClass := do
  let folded ← modes.fold span inner
  let result := if negated then folded.negation else folded
  if !modes.scripts && !result.isAscii then fail .brokenText span else return result

/-- A class with a letter. -/
def letterClass (modes : PatternModes) (span : Span) (kind : LetterClass) (negated : Bool) :
    Except PatternFlaw CharacterClass :=
  if modes.scripts then fail .namedClassUnavailable span
  else if negated then fail .brokenText span
  else .ok { accepts := kind.accepts, weight := 4 }

/-- The name of a property as it is looked up: in small letters, without blanks, dashes and
underscores and without a leading `is`. -/
def normalName (name : List Char) : List Char :=
  let (isLed, rest) := match name.map Char.toLower with
    | 'i' :: 's' :: rest => (true, rest)
    | other => (false, other)
  let kept := rest.filter fun char =>
    char.toNat < 0x80 && char ≠ ' ' && char ≠ '_' && char ≠ '-'
  if isLed && kept = ['c'] then ['i', 's', 'c'] else kept

/-- A property of characters, of which none is known. -/
def property {α : Type} (modes : PatternModes) (span : Span) (name : List Char) (alone : Bool) :
    Except PatternFlaw α :=
  if !modes.scripts then fail .scriptsNotAllowed span
  else if alone && [['c', 'f'], ['s', 'c'], ['l', 'c']].contains (normalName name) then
    fail .propertyValueUnknown span
  else fail .propertyUnknown span

mutual

/-- The characters of a class. -/
def classOf (modes : PatternModes) : ClassSyntax → Except PatternFlaw CharacterClass
  | .empty _ => .ok .none
  | .literal written => do return .single (← modes.member written)
  | .range _ first last => do return .range (← modes.member first) (← modes.member last)
  | .named span kind negated =>
    modes.complete span negated { accepts := kind.accepts, weight := 4 }
  | .property span name alone => modes.property span name alone
  | .letter span kind negated => modes.letterClass span kind negated
  | .bracketed span negated inner => do modes.complete span negated (← modes.classOf inner)
  | .union _ items => modes.classOfAll items
  | .operation _ kind left right => do
    let leftClass ← modes.classOf left
    let rightClass ← modes.classOf right
    let rightClass ← modes.fold right.span rightClass
    let leftClass ← modes.fold left.span leftClass
    return .operate kind leftClass rightClass

/-- The characters of some classes. -/
def classOfAll (modes : PatternModes) : List ClassSyntax → Except PatternFlaw CharacterClass
  | [] => .ok .none
  | item :: rest => do return (← modes.classOf item).union (← modes.classOfAll rest)

end

/-! ## Parts -/

/-- One character of a class. -/
def ofClass (inner : CharacterClass) : Pattern :=
  .one inner.accepts (if inner.isAscii then inner.weight / 4 + 2 else inner.weight / 4 + 12)

/-- The pattern of a character. -/
def ofLiteral (modes : PatternModes) (literal : LiteralSyntax) : Except PatternFlaw Pattern := do
  let char ← modes.character literal
  if modes.caseless && modes.scripts then fail .caseUnavailable literal.span
  else if modes.caseless then
    return .one (CharacterClass.single char).withBothCases.accepts char.utf8Size
  else return .one (· = char) char.utf8Size

/-- The pattern of a dot. -/
def ofDot (modes : PatternModes) (span : Span) : Except PatternFlaw Pattern :=
  if !modes.scripts then fail .brokenText span
  else .ok (.one (fun char =>
    modes.dotMatchesAll || char ≠ '\n' && !(modes.returns && char = '\r')) 12)

/-- The condition of an assertion. -/
def conditionOf (modes : PatternModes) : AssertionSyntax → PlaceCondition
  | .lineStart => if modes.manyLines then .lineStart modes.returns else .textStart
  | .lineStop => if modes.manyLines then .lineStop modes.returns else .textStop
  | .textStart => .textStart
  | .textStop => .textStop
  | .boundary kind => .boundary kind modes.scripts

end PatternModes

/-- A repetition. None at all is the empty pattern. -/
def Pattern.repetition (least : Nat) (most : Option Nat) (part : Pattern) : Pattern :=
  if most = some 0 then .empty else .repeated least most part

mutual

/-- The meaning of a pattern under some flags, with the flags behind it. -/
def PatternSyntax.meaning (modes : PatternModes) :
    PatternSyntax → Except PatternFlaw (Pattern × PatternModes)
  | .empty _ => .ok (.empty, modes)
  | .flags _ changes => .ok (.empty, modes.setAll changes)
  | .literal written => do return (← modes.ofLiteral written, modes)
  | .dot span => do return (← modes.ofDot span, modes)
  | .assertion _ kind => .ok (.condition (modes.conditionOf kind), modes)
  | .property span name alone => modes.property span name alone
  | .letter span kind negated => do
    return (PatternModes.ofClass (← modes.letterClass span kind negated), modes)
  | .bracketed span negated inner => do
    let accepted ← modes.complete span negated (← modes.classOf inner)
    return (PatternModes.ofClass accepted, modes)
  | .repetition _ part least most => do
    let (part, modes) ← part.meaning modes
    return (.repetition least most part, modes)
  | .group _ changes captures part => do
    let (part, _) ← part.meaning (modes.setAll changes)
    return (if captures then .group part else part, modes)
  | .branches _ parts => PatternSyntax.meaningOfAny modes parts
  | .sequence _ parts => PatternSyntax.meaningOfAll modes parts

/-- The meaning of parts one after the other. -/
def PatternSyntax.meaningOfAll (modes : PatternModes) :
    List PatternSyntax → Except PatternFlaw (Pattern × PatternModes)
  | [] => .ok (.empty, modes)
  | part :: rest => do
    let (first, modes) ← part.meaning modes
    let (second, modes) ← PatternSyntax.meaningOfAll modes rest
    return (.followed first second, modes)

/-- The meaning of a choice between parts. The flags of one are in force in the next. -/
def PatternSyntax.meaningOfAny (modes : PatternModes) :
    List PatternSyntax → Except PatternFlaw (Pattern × PatternModes)
  | [] => .ok (.empty, modes)
  | [part] => part.meaning modes
  | part :: rest => do
    let (first, modes) ← part.meaning modes
    let (second, modes) ← PatternSyntax.meaningOfAny modes rest
    return (.either first second, modes)

end

namespace Pattern

/-! ## Limits -/

/-- The states of an automaton for the pattern, counted roughly. -/
def states : Pattern → Nat
  | .empty | .condition _ => 1
  | .one _ weight => weight
  | .group part => part.states + 2
  | .followed first second => first.states + second.states
  | .either first second => first.states + second.states + 2
  | .repeated least most part =>
    match most with
    | none => max 1 least * part.states + 1
    | some most => least * part.states + (most - least) * (part.states + 1) + 1

/-- The states around those of the pattern. -/
def frame : Nat := 8

/-- The bytes that one state takes. -/
def stateSize : Nat := 32

/-- The bytes that the states of a pattern may take. -/
def sizeLimit : Nat := 10485760

/-- The pattern asks for the word boundaries of all scripts. -/
def needsBoundaries : Pattern → Bool
  | .empty | .one .. => false
  | .condition (.boundary _ scripts) => scripts
  | .condition _ => false
  | .group part | .repeated _ _ part => part.needsBoundaries
  | .followed first second | .either first second =>
    first.needsBoundaries || second.needsBoundaries

/-- Reads a pattern. -/
def ofText (text : List Char) : Except PatternFault Pattern := do
  let read ← (PatternSyntax.ofText text).mapError .flaw
  let (pattern, _) ← (read.meaning {}).mapError .flaw
  if sizeLimit < (pattern.states + frame) * stateSize then .error (.tooLarge sizeLimit)
  else if pattern.needsBoundaries then .error .boundariesUnavailable
  else return pattern

end Pattern

end JobPool
