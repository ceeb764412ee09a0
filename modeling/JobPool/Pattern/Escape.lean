/-
**Escapes in patterns.**

A backslash gives the character after it another meaning: a class of characters, a condition on a
place, a character by its number, or the character itself where it would have a meaning of its own.
`PatternReader.escape` reads one escape, from its backslash on.
-/

import JobPool.Pattern.Cursor

namespace JobPool.PatternReader

/-- The characters with a meaning of their own. -/
def isMeta (char : Char) : Bool :=
  ['\\', '.', '+', '*', '?', '(', ')', '|', '[', ']', '\x7b', '\x7d', '^', '$', '#', '&', '-',
    '~'].contains char

/-- The characters that stand for themselves behind a backslash. -/
def isEscapable (char : Char) : Bool :=
  isMeta char || char.toNat < 0x80 && !char.isAlphanum && char ≠ '<' && char ≠ '>'

/-- The value of a hexadecimal digit. -/
def hexDigit? (char : Char) : Option Nat :=
  if char.isDigit then some (char.toNat - '0'.toNat)
  else if 'a' ≤ char ∧ char ≤ 'f' then some (char.toNat - 'a'.toNat + 10)
  else if 'A' ≤ char ∧ char ≤ 'F' then some (char.toNat - 'A'.toNat + 10)
  else none

/-- The character with a number. -/
def character? (code : Nat) : Option Char :=
  if valid : code.isValidChar then some (Char.ofNatAux code valid) else none

/-- The number of some digits. -/
def numberOf (digits : List Nat) : Nat := digits.foldl (fun number digit => number * 16 + digit) 0

/-- A fixed count of hexadecimal digits. -/
def hexDigits : Nat → PatternReader (List Nat)
  | 0 => return []
  | count + 1 => do
    let some char ← next? | fail .escapeUnfinished (← here)
    let some digit := hexDigit? char | fail .hexDigit (← spanOfNext)
    let _ ← advance
    return digit :: (← hexDigits count)

/-- Hexadecimal digits up to a closing brace. -/
def bracedDigits : Nat → PatternReader (List Nat)
  | 0 => return []
  | limit + 1 => do
    match ← next? with
    | none | some '\x7d' => return []
    | some char =>
      let some digit := hexDigit? char | fail .hexDigit (← spanOfNext)
      let _ ← advance
      return digit :: (← bracedDigits limit)

/-- A character by its number, from the letter behind the backslash on. -/
def numbered (start : Place) (letter : Char) : PatternReader LiteralSyntax := do
  if !(← advance) then fail .escapeUnfinished (← here)
  let opening ← place
  if ← isBefore '\x7b' then
    let inner := (← spanOfNext).stop
    let _ ← advance
    let digits ← bracedDigits (← get).rest.length
    if ← isAtEnd then fail .escapeUnfinished (← since opening)
    let stop ← place
    let _ ← advance
    if digits.isEmpty then fail .hexEmpty (← since opening)
    let some char := character? (numberOf digits) | fail .hexNoCharacter ⟨inner, stop⟩
    return ⟨← since start, char, false⟩
  let digits ← hexDigits (match letter with | 'x' => 2 | 'u' => 4 | _ => 8)
  let some char := character? (numberOf digits) | fail .hexNoCharacter (← since opening)
  return ⟨← since start, char, letter = 'x'⟩

/-- The first place of a text at which another one begins. -/
def splitAtFirst? (mark : List Char) : List Char → Option (List Char × List Char)
  | [] => none
  | char :: rest =>
    if mark.isPrefixOf (char :: rest) then some ([], (char :: rest).drop mark.length)
    else (splitAtFirst? mark rest).map fun (before, after) => (char :: before, after)

/-- The name of a property without its value, and whether it stands alone. -/
def propertyName (text : List Char) : List Char × Bool :=
  let split := (splitAtFirst? ['!', '='] text).or
    ((splitAtFirst? [':'] text).or (splitAtFirst? ['='] text))
  match split with
  | some (name, _) => (name, false)
  | none => (text, true)

/-- A property of characters, from the letter behind the backslash on. -/
def property (start : Place) : PatternReader PatternSyntax := do
  if !(← advance) then fail .escapeUnfinished (← here)
  if ← isBefore '\x7b' then
    let _ ← advance
    let text ← collect (· ≠ '\x7d')
    if ← isAtEnd then fail .escapeUnfinished (← here)
    step
    let (name, alone) := propertyName text
    return .property (← since start) name alone
  let some char ← next? | fail .escapeUnfinished (← here)
  if char = '\\' then fail .propertyName (← spanOfNext)
  let _ ← advance
  return .property (← since start) [char] true

/-- The names of word boundaries in braces. -/
def boundaryNamed? (name : List Char) : Option BoundaryKind :=
  match String.ofList name with
  | "start" => some .start
  | "end" => some .stop
  | "start-half" => some .startHalf
  | "end-half" => some .stopHalf
  | _ => none

/-- A word boundary behind its letter. A brace may name its kind; one that does not begin with a
letter or a dash belongs to a repetition. -/
def boundary (start : Place) : PatternReader PatternSyntax := do
  let plain := PatternSyntax.assertion (← since start) (.boundary .either)
  if !(← isBefore '\x7b') then return plain
  let before ← get
  let isNameChar := fun char : Char => char.isAlpha || char = '-'
  if !(← advance) then fail .boundaryUnfinished (← since start)
  let inner ← place
  let some first ← next? | fail .boundaryUnfinished (← since start)
  if !isNameChar first then
    set before
    return plain
  let name ← collect isNameChar
  if !(← isBefore '\x7d') then fail .boundaryUnclosed (← since before.place)
  let stop ← place
  step
  let some kind := boundaryNamed? name | fail .boundaryUnknown ⟨inner, stop⟩
  return .assertion (← since start) (.boundary kind)

/-- An escape, from its backslash on. -/
def escape : PatternReader PatternSyntax := do
  let start ← place
  step
  let some char ← next? | fail .escapeUnfinished (← since start)
  if char.isDigit then fail .backreference ⟨start, (← spanOfNext).stop⟩
  match char with
  | 'x' | 'u' | 'U' => return .literal (← numbered start char)
  | 'p' | 'P' => property start
  | 'd' | 'D' | 's' | 'S' | 'w' | 'W' =>
    step
    let kind := match char.toLower with
      | 'd' => LetterClass.digit
      | 's' => .space
      | _ => .word
    return .letter (← since start) kind char.isUpper
  | _ =>
    step
    let span ← since start
    if isEscapable char then return .literal ⟨span, char, false⟩
    match char with
    | 'a' => return .literal ⟨span, '\x07', false⟩
    | 'f' => return .literal ⟨span, '\x0c', false⟩
    | 't' => return .literal ⟨span, '\t', false⟩
    | 'n' => return .literal ⟨span, '\n', false⟩
    | 'r' => return .literal ⟨span, '\r', false⟩
    | 'v' => return .literal ⟨span, '\x0b', false⟩
    | 'A' => return .assertion span .textStart
    | 'z' => return .assertion span .textStop
    | 'b' => boundary start
    | 'B' => return .assertion span (.boundary .neither)
    | '<' => return .assertion span (.boundary .start)
    | '>' => return .assertion span (.boundary .stop)
    | _ => fail .escapeUnknown span

end JobPool.PatternReader
