/-
**What can be wrong with a pattern.**

A pattern may be written badly, or ask for something that is not available; the report then shows
the pattern with the places of the fault marked below its lines. A pattern that reads well may
still need the word boundaries of all scripts, which are not available, or be too large.

* `Place` and `Span` say where in a pattern something stands, in characters;
* `PatternFault.message` is the report.
-/

import JobPool.Text.Pieces

namespace JobPool

/-- A place between the characters of a pattern. Lines and columns count from one. -/
structure Place where
  index : Nat := 0
  line : Nat := 1
  column : Nat := 1
  deriving DecidableEq, Repr, Inhabited

/-- The place behind a character. -/
def Place.after (place : Place) (char : Char) : Place :=
  if char = '\n' then ⟨place.index + 1, place.line + 1, 1⟩
  else ⟨place.index + 1, place.line, place.column + 1⟩

/-- A part of a pattern. -/
structure Span where
  start : Place
  stop : Place
  deriving DecidableEq, Repr, Inhabited

namespace Span

def isOnOneLine (span : Span) : Bool := span.start.line = span.stop.line

/-- The order in which the spans of one line are marked. -/
def le (first second : Span) : Bool :=
  first.start.index < second.start.index ||
    first.start.index = second.start.index && first.stop.index ≤ second.stop.index

end Span

/-- What is wrong at a place of a pattern. -/
inductive PatternProblem where
  | classUnclosed
  | classEscape
  | rangeReversed
  | rangeBound
  | decimalEmpty
  | decimalTooLarge
  | hexEmpty
  | hexNoCharacter
  | hexDigit
  | escapeUnfinished
  | escapeUnknown
  | negationDangling
  | negationRepeated
  | flagDuplicate
  | flagUnfinished
  | flagUnknown
  | nameDuplicate
  | nameEmpty
  | nameCharacter
  | nameUnclosed
  | groupUnclosed
  | groupUnopened
  | nestedTooDeep (limit : Nat)
  | countReversed
  | countNotDecimal
  | countUnclosed
  | nothingToRepeat
  | boundaryUnclosed
  | boundaryUnknown
  | boundaryUnfinished
  | propertyName
  | backreference
  | lookAround
  | brokenText
  | scriptsNotAllowed
  | propertyUnknown
  | propertyValueUnknown
  | namedClassUnavailable
  | caseUnavailable
  deriving DecidableEq, Repr

def PatternProblem.text : PatternProblem → String
  | classUnclosed => "unclosed character class"
  | classEscape => "invalid escape sequence found in character class"
  | rangeReversed => "invalid character class range, the start must be <= the end"
  | rangeBound => "invalid range boundary, must be a literal"
  | decimalEmpty => "decimal literal empty"
  | decimalTooLarge => "decimal literal invalid"
  | hexEmpty => "hexadecimal literal empty"
  | hexNoCharacter => "hexadecimal literal is not a Unicode scalar value"
  | hexDigit => "invalid hexadecimal digit"
  | escapeUnfinished => "incomplete escape sequence, reached end of pattern prematurely"
  | escapeUnknown => "unrecognized escape sequence"
  | negationDangling => "dangling flag negation operator"
  | negationRepeated => "flag negation operator repeated"
  | flagDuplicate => "duplicate flag"
  | flagUnfinished => "expected flag but got end of regex"
  | flagUnknown => "unrecognized flag"
  | nameDuplicate => "duplicate capture group name"
  | nameEmpty => "empty capture group name"
  | nameCharacter => "invalid capture group character"
  | nameUnclosed => "unclosed capture group name"
  | groupUnclosed => "unclosed group"
  | groupUnopened => "unopened group"
  | nestedTooDeep limit =>
    s!"exceed the maximum number of nested parentheses/brackets ({limit})"
  | countReversed => "invalid repetition count range, the start must be <= the end"
  | countNotDecimal => "repetition quantifier expects a valid decimal"
  | countUnclosed => "unclosed counted repetition"
  | nothingToRepeat => "repetition operator missing expression"
  | boundaryUnclosed =>
    "special word boundary assertion is either unclosed or contains an invalid character"
  | boundaryUnknown =>
    "unrecognized special word boundary assertion, valid choices are: " ++
      "start, end, start-half or end-half"
  | boundaryUnfinished =>
    "found either the beginning of a special word boundary or a bounded repetition on a \\b " ++
      "with an opening brace, but no closing brace"
  | propertyName => "invalid Unicode character class"
  | backreference => "backreferences are not supported"
  | lookAround => "look-around, including look-ahead and look-behind, is not supported"
  | brokenText => "pattern can match invalid UTF-8"
  | scriptsNotAllowed => "Unicode not allowed here"
  | propertyUnknown => "Unicode property not found"
  | propertyValueUnknown => "Unicode property value not found"
  | namedClassUnavailable =>
    "Unicode-aware Perl class not found (make sure the unicode-perl feature is enabled)"
  | caseUnavailable =>
    "Unicode-aware case insensitivity matching is not available " ++
      "(make sure the unicode-case feature is enabled)"

/-- A problem, where it lies, and a part of the pattern that it contradicts. -/
structure PatternFlaw where
  problem : PatternProblem
  span : Span
  earlier : Option Span := none
  deriving DecidableEq, Repr

/-- Why a pattern cannot be used. -/
inductive PatternFault where
  | flaw (flaw : PatternFlaw)
  /-- The pattern asks for the word boundaries of all scripts. -/
  | boundariesUnavailable
  | tooLarge (limit : Nat)
  deriving DecidableEq, Repr

namespace PatternFlaw

/-- The spans to mark, in their order. -/
def spans (flaw : PatternFlaw) : List Span :=
  (flaw.span :: flaw.earlier.toList).mergeSort Span.le

/-- Marks below a line, after some columns have been written. Every span has at least one mark. -/
def marks : Nat → List Span → List Char
  | _, [] => []
  | written, span :: rest =>
    let gap := span.start.column - 1 - written
    let width := max 1 (span.stop.column - span.start.column)
    List.replicate gap ' ' ++ List.replicate width '^' ++ marks (written + gap + width) rest

/-- A number with blanks before it. -/
def padded (width number : Nat) : List Char :=
  let digits := Nat.toDigits 10 number
  List.replicate (width - digits.length) ' ' ++ digits

/-- The lines of a pattern, each with its marks below it. The lines of a longer pattern are
numbered. -/
def notated (flaw : PatternFlaw) (pattern : List Char) : List (List Char) :=
  let lines := Text.lines pattern
  let count := lines.length + if pattern.getLast? = some '\n' then 1 else 0
  let width := if count ≤ 1 then 0 else (Nat.toDigits 10 count).length
  let margin := if width = 0 then 4 else width + 2
  (lines.zipIdx 1).flatMap fun (line, number) =>
    let lead := if width = 0 then List.replicate 4 ' ' else padded width number ++ [':', ' ']
    match flaw.spans.filter fun span => span.isOnOneLine && span.start.line = number with
    | [] => [lead ++ line]
    | spans => [lead ++ line, List.replicate margin ' ' ++ marks 0 spans]

/-- The spans that reach over several lines, in words. -/
def reaches (flaw : PatternFlaw) : List (List Char) :=
  (flaw.spans.filter (!·.isOnOneLine)).map fun span =>
    (s!"on line {span.start.line} (column {span.start.column}) " ++
      s!"through line {span.stop.line} (column {span.stop.column - 1})").toList

/-- The report of a flaw. -/
def report (flaw : PatternFlaw) (pattern : List Char) : String :=
  let head := "regex parse error:".toList
  let last := "error: ".toList ++ flaw.problem.text.toList
  let lines :=
    if pattern.contains '\n' then
      let divider := List.replicate 79 '~'
      head :: divider :: flaw.notated pattern ++ divider :: flaw.reaches ++ [last]
    else head :: flaw.notated pattern ++ [last]
  String.ofList (List.intercalate ['\n'] lines)

end PatternFlaw

/-- The report of a fault of a pattern. -/
def PatternFault.message (pattern : List Char) : PatternFault → String
  | flaw found => found.report pattern
  | boundariesUnavailable => "error building NFA"
  | tooLarge limit => s!"Compiled regex exceeds size limit of {limit} bytes."

end JobPool
