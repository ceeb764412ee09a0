/-
**Quoted text in messages.**

A text is quoted so that it can be read on one line: backslashes, double quotes and the usual
control characters have short escapes, every other character that does not show as itself is written
by its code point in braces.
-/

import JobPool.Text.Printable

namespace JobPool.Text

/-- The code point of a character in lower-case hexadecimal digits, between braces. -/
def codePoint (char : Char) : List Char :=
  ['\\', 'u', '\x7b'] ++ Nat.toDigits 16 char.toNat ++ ['\x7d']

/-- One character inside quotes. -/
def quotedChar (char : Char) : List Char :=
  match char with
  | '"' => ['\\', '"']
  | '\\' => ['\\', '\\']
  | '\n' => ['\\', 'n']
  | '\r' => ['\\', 'r']
  | '\t' => ['\\', 't']
  | '\x00' => ['\\', '0']
  | _ => if isPrintable char then [char] else codePoint char

/-- The text between double quotes. -/
def quoted (text : String) : String :=
  String.ofList ('"' :: text.toList.flatMap quotedChar ++ ['"'])

end JobPool.Text
