/-
**The syntax of patterns.**

A pattern as it is written: every part knows the span in which it stands. A class in brackets has a
syntax of its own (`ClassSyntax`), with unions, ranges and the set operations. What the parts mean
depends on the flags that are in force where they stand, and is not decided here.
-/

import JobPool.Pattern.Fault

namespace JobPool

/-- What a flag changes about the parts after it. -/
inductive PatternFlag where
  | caseless
  | manyLines
  | dotMatchesAll
  | swapGreed
  | scripts
  | returns
  /-- Blanks and comments in the pattern are skipped. -/
  | loose
  deriving DecidableEq, Repr

/-- Flags with their new values. -/
abbrev FlagChanges := List (PatternFlag × Bool)

/-- A character, and whether it was written as a byte in two hexadecimal digits. -/
structure LiteralSyntax where
  span : Span
  char : Char
  isByte : Bool := false
  deriving DecidableEq, Repr

/-- The classes with a letter of their own. -/
inductive LetterClass where
  | digit
  | space
  | word
  deriving DecidableEq, Repr

/-- The named classes of ASCII characters. -/
inductive NamedClass where
  | alnum
  | alpha
  | ascii
  | blank
  | cntrl
  | digit
  | graph
  | lower
  | print
  | punct
  | space
  | upper
  | word
  | xdigit
  deriving DecidableEq, Repr

def NamedClass.all : List NamedClass :=
  [alnum, alpha, ascii, blank, cntrl, digit, graph, lower, print, punct, space, upper, word,
    xdigit]

def NamedClass.name : NamedClass → String
  | alnum => "alnum"
  | alpha => "alpha"
  | ascii => "ascii"
  | blank => "blank"
  | cntrl => "cntrl"
  | digit => "digit"
  | graph => "graph"
  | lower => "lower"
  | print => "print"
  | punct => "punct"
  | space => "space"
  | upper => "upper"
  | word => "word"
  | xdigit => "xdigit"

/-- The operations on the classes within one pair of brackets. -/
inductive ClassOperation where
  | intersection
  | difference
  | symmetricDifference
  deriving DecidableEq, Repr

/-- What stands in brackets. -/
inductive ClassSyntax where
  | empty (span : Span)
  | literal (literal : LiteralSyntax)
  | range (span : Span) (first last : LiteralSyntax)
  | named (span : Span) (kind : NamedClass) (negated : Bool)
  /-- A property of characters by its name, which stands alone or has a value. -/
  | property (span : Span) (name : List Char) (alone : Bool)
  | letter (span : Span) (kind : LetterClass) (negated : Bool)
  | bracketed (span : Span) (negated : Bool) (inner : ClassSyntax)
  | union (span : Span) (items : List ClassSyntax)
  | operation (span : Span) (kind : ClassOperation) (left right : ClassSyntax)

def ClassSyntax.span : ClassSyntax → Span
  | empty span | range span .. | named span .. | property span .. | letter span ..
  | bracketed span .. | union span _ | operation span .. => span
  | literal value => value.span

/-- The sides of a word boundary that are looked at. -/
inductive BoundaryKind where
  | either
  | neither
  | start
  | stop
  /-- No word character stands before. -/
  | startHalf
  /-- No word character follows. -/
  | stopHalf
  deriving DecidableEq, Repr

/-- A condition on a place of the text. -/
inductive AssertionSyntax where
  | lineStart
  | lineStop
  | textStart
  | textStop
  | boundary (kind : BoundaryKind)
  deriving DecidableEq, Repr

/-- A pattern as it is written. -/
inductive PatternSyntax where
  | empty (span : Span)
  /-- Flags for the rest of the group. -/
  | flags (span : Span) (changes : FlagChanges)
  | literal (literal : LiteralSyntax)
  | dot (span : Span)
  | assertion (span : Span) (kind : AssertionSyntax)
  | property (span : Span) (name : List Char) (alone : Bool)
  | letter (span : Span) (kind : LetterClass) (negated : Bool)
  | bracketed (span : Span) (negated : Bool) (inner : ClassSyntax)
  | repetition (span : Span) (part : PatternSyntax) (least : Nat) (most : Option Nat)
  | group (span : Span) (changes : FlagChanges) (captures : Bool) (part : PatternSyntax)
  | branches (span : Span) (parts : List PatternSyntax)
  | sequence (span : Span) (parts : List PatternSyntax)

def PatternSyntax.span : PatternSyntax → Span
  | empty span | flags span _ | dot span | assertion span _ | property span .. | letter span ..
  | bracketed span .. | repetition span .. | group span .. | branches span _
  | sequence span _ => span
  | literal value => value.span

/-! ## Depth -/

mutual

/-- The first part of a class that is nested too deep, below a depth that is admitted. -/
def ClassSyntax.tooDeep? (limit depth : Nat) : ClassSyntax → Option Span
  | .bracketed span _ inner =>
    if limit ≤ depth then some span else inner.tooDeep? limit (depth + 1)
  | .union span items =>
    if limit ≤ depth then some span else ClassSyntax.anyTooDeep? limit (depth + 1) items
  | .operation span _ left right =>
    if limit ≤ depth then some span
    else (left.tooDeep? limit (depth + 1)).or (right.tooDeep? limit (depth + 1))
  | .empty _ | .literal _ | .range .. | .named .. | .property .. | .letter .. => none

/-- The first part of some classes that is nested too deep. -/
def ClassSyntax.anyTooDeep? (limit depth : Nat) : List ClassSyntax → Option Span
  | [] => none
  | item :: rest => (item.tooDeep? limit depth).or (ClassSyntax.anyTooDeep? limit depth rest)

end

mutual

/-- The first part of a pattern that is nested too deep, below a depth that is admitted. -/
def PatternSyntax.tooDeep? (limit depth : Nat) : PatternSyntax → Option Span
  | .bracketed span _ inner =>
    if limit ≤ depth then some span else inner.tooDeep? limit (depth + 1)
  | .repetition span part _ _ | .group span _ _ part =>
    if limit ≤ depth then some span else part.tooDeep? limit (depth + 1)
  | .branches span parts | .sequence span parts =>
    if limit ≤ depth then some span else PatternSyntax.anyTooDeep? limit (depth + 1) parts
  | .empty _ | .flags .. | .literal _ | .dot _ | .assertion .. | .property .. | .letter .. => none

/-- The first part of some patterns that is nested too deep. -/
def PatternSyntax.anyTooDeep? (limit depth : Nat) : List PatternSyntax → Option Span
  | [] => none
  | part :: rest => (part.tooDeep? limit depth).or (PatternSyntax.anyTooDeep? limit depth rest)

end

end JobPool
