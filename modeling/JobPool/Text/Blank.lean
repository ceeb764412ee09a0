/-
**Blank characters.**

Two classes of white space occur in settings: the ASCII blanks, which are skipped around values, and
the white space of all scripts, which is trimmed from the ends of a text.
-/

namespace JobPool.Text

/-- The ASCII blanks: space, tab, line feed, form feed and carriage return. -/
def isAsciiBlank (char : Char) : Bool :=
  char = ' ' || char = '\t' || char = '\n' || char = '\x0c' || char = '\r'

/-- White space in any script. -/
def isBlank (char : Char) : Bool :=
  let code := char.toNat
  9 ≤ code && code ≤ 13 || code = 0x20 || code = 0x85 || code = 0xa0 || code = 0x1680 ||
    0x2000 ≤ code && code ≤ 0x200a || code = 0x2028 || code = 0x2029 || code = 0x202f ||
    code = 0x205f || code = 0x3000

theorem isBlank_of_isAsciiBlank {char : Char} (blank : isAsciiBlank char = true) :
    isBlank char = true := by
  simp only [isAsciiBlank, Bool.or_eq_true, decide_eq_true_eq] at blank
  rcases blank with (((rfl | rfl) | rfl) | rfl) | rfl <;> decide

/-- The text without white space at its ends. -/
def trim (text : List Char) : List Char :=
  ((text.dropWhile isBlank).reverse.dropWhile isBlank).reverse

end JobPool.Text
