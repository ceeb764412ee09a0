/-
**Reading a pattern character by character.**

A cursor stands before the rest of a pattern. `PatternReader` is the monad of the readers: a reader
moves the cursor or ends with a flaw. After a flag the cursor skips blanks and comments between the
parts of a pattern.
-/

import JobPool.Pattern.Syntax
import JobPool.Text.Blank

namespace JobPool

/-- A place in a pattern with what follows it. -/
structure PatternCursor where
  rest : List Char
  place : Place := {}
  /-- Blanks and comments are skipped. -/
  loose : Bool := false
  /-- The names of the groups so far. -/
  names : List (List Char × Span) := []

namespace PatternCursor

/-- Behind the next character. -/
def step (cursor : PatternCursor) : PatternCursor :=
  match cursor.rest with
  | [] => cursor
  | char :: rest => { cursor with rest, place := cursor.place.after char }

/-- Behind blanks and comments, from inside a comment or not. A comment reaches to the end of its
line. -/
def skip (inComment : Bool) (place : Place) : List Char → Place × List Char
  | [] => (place, [])
  | char :: rest =>
    if inComment then skip (char ≠ '\n') (place.after char) rest
    else if Text.isBlank char then skip false (place.after char) rest
    else if char = '#' then skip true (place.after char) rest
    else (place, char :: rest)

/-- Behind what the cursor skips. -/
def skipBlanks (cursor : PatternCursor) : PatternCursor :=
  if cursor.loose then
    let (place, rest) := skip false cursor.place cursor.rest
    { cursor with place, rest }
  else cursor

/-- The character after the next one. -/
def second? (cursor : PatternCursor) : Option Char := (cursor.rest.drop 1).head?

/-- The character that seems to come after the next one when blanks are skipped. The look ahead
goes over blanks and one number sign, but not over a comment. -/
def secondPart? (cursor : PatternCursor) : Option Char :=
  if !cursor.loose then cursor.second?
  else
    let after := (cursor.rest.drop 1).dropWhile Text.isBlank
    let part := match after with
      | '#' :: rest => rest.dropWhile Text.isBlank
      | other => other
    part.head?.or cursor.second?

end PatternCursor

/-- A reader of a part of a pattern. -/
abbrev PatternReader := StateT PatternCursor (Except PatternFlaw)

namespace PatternReader

/-- Ends with a flaw. -/
def fail {α : Type} (problem : PatternProblem) (span : Span) (earlier : Option Span := none) :
    PatternReader α :=
  throw ⟨problem, span, earlier⟩

/-- The next character, none at the end of the pattern. -/
def next? : PatternReader (Option Char) := return (← get).rest.head?

/-- The cursor stands before a character. -/
def isBefore (char : Char) : PatternReader Bool := return (← next?) = some char

def isAtEnd : PatternReader Bool := return (← get).rest.isEmpty

def place : PatternReader Place := return (← get).place

/-- The empty span at the cursor. -/
def here : PatternReader Span := return ⟨← place, ← place⟩

/-- The span of the next character. -/
def spanOfNext : PatternReader Span := do
  let start ← place
  match ← next? with
  | some char => return ⟨start, start.after char⟩
  | none => return ⟨start, start⟩

/-- The span from a place to the cursor. -/
def since (start : Place) : PatternReader Span := return ⟨start, ← place⟩

def step : PatternReader Unit := modify PatternCursor.step

def skipBlanks : PatternReader Unit := modify PatternCursor.skipBlanks

/-- Goes to the next part, and says whether there is one. -/
def advance : PatternReader Bool := do
  step
  skipBlanks
  return !(← isAtEnd)

/-- Goes behind some characters, if they come next. -/
def take? (chars : List Char) : PatternReader Bool := do
  if chars.isPrefixOf (← get).rest then
    chars.forM fun _ => step
    return true
  return false

/-- The next characters of a kind, at most so many, with what is skipped after each. -/
def collectWithin (accepts : Char → Bool) : Nat → PatternReader (List Char)
  | 0 => return []
  | limit + 1 => do
    match ← next? with
    | none => return []
    | some char =>
      if accepts char then
        let _ ← advance
        return char :: (← collectWithin accepts limit)
      return []

/-- The next characters of a kind. -/
def collect (accepts : Char → Bool) : PatternReader (List Char) := do
  collectWithin accepts (← get).rest.length

/-- Goes behind blanks, whatever the flags. -/
def dropBlanks : PatternReader Unit := do
  (((← get).rest).takeWhile Text.isBlank).forM fun _ => step

end PatternReader

end JobPool
