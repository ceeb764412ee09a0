/-
**Values of settings.**

A setting is given as a text. The text may spell a truth value, a quoted text, a character, a
sequence in brackets or a table in braces; any other run up to a separator is a number if it reads
as one and a plain text if not. A text that is not one value from end to end is taken as it stands.
A quoted text holds escapes; what stands before the first of them is cut by a count of bytes, and a
cut inside a character is a fault.

* `Setting.ofText` reads a value.
* `Setting.merge` lays one value over another: tables are merged key by key, anything else is
  replaced. `merge_of_not_table` says that only tables are merged.
-/

import JobPool.Decimal.Reader
import JobPool.Text.Blank
import JobPool.Text.Cut

namespace JobPool

/-- The value of a setting, before its meaning is known. The keys of a table are increasing. -/
inductive Setting where
  | truth (value : Bool)
  | natural (value : Nat)
  | integer (value : Int)
  | real (value : Float)
  | text (value : String)
  | character (value : Char)
  | sequence (items : List Setting)
  | table (entries : List (String × Setting))
  deriving Inhabited

namespace Setting

/-! ## Tables -/

/-- Enters a value under a key at its place in the order. -/
def put (key : String) (value : Setting) : List (String × Setting) → List (String × Setting)
  | [] => [(key, value)]
  | (listed, old) :: rest =>
    if key = listed then (key, value) :: rest
    else if key < listed then (key, value) :: (listed, old) :: rest
    else (listed, old) :: put key value rest

mutual

/-- Lays the second value over the first. -/
def merge : Setting → Setting → Setting
  | .table old, .table new => .table (mergeEntries old new)
  | _, new => new

/-- Lays entries over the entries of a table. -/
def mergeEntries (old : List (String × Setting)) :
    List (String × Setting) → List (String × Setting)
  | [] => old
  | (key, value) :: rest =>
    let laid := match old.lookup key with
      | some present => merge present value
      | none => value
    mergeEntries (put key laid old) rest

end

/-- A value that is no table replaces what it is laid over. -/
theorem merge_of_not_table (old new : Setting) (plain : ∀ entries, new ≠ .table entries) :
    merge old new = new := by
  cases new with
  | table entries => exact absurd rfl (plain entries)
  | _ => cases old <;> simp [merge]

/-- A value under a path of keys. -/
def nest : List String → Setting → Setting
  | [], value => value
  | key :: rest, value => .table [(key, nest rest value)]

/-! ## Reading -/

/-- The characters that end a plain run. -/
def isSeparator (char : Char) : Bool :=
  char = ',' || char = '\x7b' || char = '\x7d' || char = '[' || char = ']'

/-- The characters of a plain key. -/
def isKeyChar (char : Char) : Bool := char.isAlphanum || char = '_' || char = '-'

/-- A natural number below `2 ^ 64`, with an optional plus sign. -/
def natural? (text : List Char) : Option Nat :=
  let digits := match text with
    | '+' :: rest => rest
    | rest => rest
  match Decimal.readNat? digits with
  | some value => if value < UInt64.size then some value else none
  | none => none

/-- An integer of 64 bits with an optional sign. -/
def integer? (text : List Char) : Option Int :=
  let (negative, digits) := Decimal.takeSign text
  match Decimal.readNat? digits with
  | none => none
  | some size =>
    let value : Int := if negative then -(size : Int) else size
    if Int64.minValue.toInt ≤ value ∧ value ≤ Int64.maxValue.toInt then some value else none

/-- The value of a plain run. -/
def ofRun (run : List Char) : Setting :=
  let trimmed := Text.trim run
  match if trimmed.contains '.' then Decimal.readFloat? trimmed else none with
  | some value => .real value
  | none =>
    match natural? trimmed with
    | some value => .natural value
    | none =>
      match integer? trimmed with
      | some value => .integer value
      | none => .text (String.ofList trimmed)

/-- The value of a hexadecimal digit. -/
def hexDigit? (char : Char) : Option Nat :=
  if char.isDigit then some (char.toNat - '0'.toNat)
  else if 'a' ≤ char ∧ char ≤ 'f' then some (char.toNat - 'a'.toNat + 10)
  else if 'A' ≤ char ∧ char ≤ 'F' then some (char.toNat - 'A'.toNat + 10)
  else none

/-- The character with a code point in hexadecimal digits. -/
def codePoint? (digits : List Char) : Option Char := do
  let values ← digits.mapM hexDigit?
  let code := values.foldl (fun code value => code * 16 + value) 0
  if valid : code.isValidChar then some (Char.ofNatAux code valid) else none

/-- A quoted text is cut inside one of its characters: the text, and the byte at which it is cut. -/
structure MisplacedCut where
  text : List Char
  byte : Nat
  deriving DecidableEq, Repr

/-- Why a text does not read as a value. -/
inductive ReadFault where
  | malformed
  | cut (fault : MisplacedCut)
  deriving DecidableEq, Repr

/-- The characters that stand for themselves between quotes. -/
def isPlain (char : Char) : Bool :=
  char = '\t' || (0x20 ≤ char.toNat && char.toNat ≠ 0x7f)

/-- The text between quotes with its escapes resolved. -/
def resolve? : List Char → Option (List Char)
  | [] => some []
  | '\\' :: 'u' :: a :: b :: c :: d :: rest => do
    let char ← codePoint? [a, b, c, d]
    return char :: (← resolve? rest)
  | '\\' :: 'U' :: a :: b :: c :: d :: e :: f :: g :: h :: rest => do
    let char ← codePoint? [a, b, c, d, e, f, g, h]
    return char :: (← resolve? rest)
  | '\\' :: mark :: rest => do
    let char ← match mark with
      | 'b' => some '\x08'
      | 't' => some '\t'
      | 'n' => some '\n'
      | 'f' => some '\x0c'
      | 'r' => some '\r'
      | '"' => some '"'
      | '\\' => some '\\'
      | _ => none
    return char :: (← resolve? rest)
  | char :: rest => do
    guard (char ≠ '\\' && isPlain char)
    return char :: (← resolve? rest)

/-- The value of the text between quotes. Of what stands before the first escape, as many bytes are
kept as it has characters. -/
def ofQuoted (inner : List Char) : Except ReadFault (List Char) :=
  let plain := inner.takeWhile (· ≠ '\\')
  let escaped := inner.dropWhile (· ≠ '\\')
  if !plain.all isPlain then .error .malformed
  else if escaped.isEmpty then .ok plain
  else
    match Text.takeBytes? plain.length plain with
    | none => .error (.cut ⟨inner, plain.length⟩)
    | some kept =>
      match resolve? escaped with
      | some resolved => .ok (kept ++ resolved)
      | none => .error .malformed

/-- What stands before the closing quote, which is the first one without a backslash, and what
follows it. -/
def splitQuoted? : List Char → Option (List Char × List Char)
  | [] => none
  | '"' :: rest => some ([], rest)
  | '\\' :: char :: rest => do
    let (inner, rest) ← splitQuoted? rest
    return ('\\' :: char :: inner, rest)
  | char :: rest => do
    let (inner, rest) ← splitQuoted? rest
    return (char :: inner, rest)

/-- A quoted text behind its opening quote, and what follows the closing one. -/
def readQuoted (chars : List Char) : Except ReadFault (List Char × List Char) :=
  match splitQuoted? chars with
  | none => .error .malformed
  | some (inner, rest) => do return (← ofQuoted inner, rest)

/-- A plain or quoted key, with blanks around it, and the equals sign behind it. -/
def readKey (chars : List Char) : Except ReadFault (String × List Char) := do
  let (key, rest) ← match chars.dropWhile Text.isAsciiBlank with
    | '"' :: rest => readQuoted rest
    | plain =>
      let key := plain.takeWhile isKeyChar
      (if key.isEmpty then .error .malformed else .ok (key, plain.dropWhile isKeyChar))
  match rest.dropWhile Text.isAsciiBlank with
  | '=' :: rest => .ok (String.ofList key, rest)
  | _ => .error .malformed

mutual

/-- A value with the blanks around it, and the rest. The depth bounds the nesting. -/
def readValue : Nat → List Char → Except ReadFault (Setting × List Char)
  | 0, _ => .error .malformed
  | depth + 1, chars => do
    let (value, rest) ← match chars.dropWhile Text.isAsciiBlank with
      | 't' :: 'r' :: 'u' :: 'e' :: rest => .ok (.truth true, rest)
      | 'f' :: 'a' :: 'l' :: 's' :: 'e' :: rest => .ok (.truth false, rest)
      | '\x7b' :: rest => do
        let (entries, rest) ← readEntries depth [] rest
        pure (.table entries, rest)
      | '[' :: rest => do
        let (items, rest) ← readItems depth rest
        pure (.sequence items, rest)
      | '"' :: rest => do
        let (quoted, rest) ← readQuoted rest
        pure (.text (String.ofList quoted), rest)
      | '\'' :: char :: '\'' :: rest => .ok (.character char, rest)
      | '\'' :: _ => .error .malformed
      | plain =>
        .ok (ofRun (plain.takeWhile (!isSeparator ·)), plain.dropWhile (!isSeparator ·))
    return (value, rest.dropWhile Text.isAsciiBlank)

/-- The items of a sequence behind its opening bracket, and what follows the closing one. -/
def readItems : Nat → List Char → Except ReadFault (List Setting × List Char)
  | 0, _ => .error .malformed
  | depth + 1, chars =>
    match chars with
    | ']' :: rest => .ok ([], rest)
    | _ => do
      let (item, rest) ← readValue depth chars
      match rest with
      | ',' :: rest => do
        let (items, rest) ← readItems depth rest
        return (item :: items, rest)
      | ']' :: rest => .ok ([item], rest)
      | _ => .error .malformed

/-- The entries of a table behind its opening brace, and what follows the closing one. -/
def readEntries : Nat → List (String × Setting) → List Char →
    Except ReadFault (List (String × Setting) × List Char)
  | 0, _, _ => .error .malformed
  | depth + 1, entries, chars =>
    match chars with
    | '\x7d' :: rest => .ok (entries, rest)
    | _ => do
      let (key, rest) ← readKey chars
      let (value, rest) ← readValue depth rest
      let entries := put key value entries
      match rest with
      | ',' :: rest => readEntries depth entries rest
      | '\x7d' :: rest => .ok (entries, rest)
      | _ => .error .malformed

end

/-- The value that a text spells; a text that is no value stands for itself. -/
def ofText (text : String) : Except MisplacedCut Setting :=
  match readValue (2 * text.length + 2) text.toList with
  | .ok (value, []) => .ok value
  | .ok _ | .error .malformed => .ok (.text text)
  | .error (.cut fault) => .error fault

end Setting

end JobPool
