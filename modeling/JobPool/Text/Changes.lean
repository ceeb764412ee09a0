/-
**Properties of characters by their changes.**

A property that holds for long runs of code points is given by the code points at which it changes,
in increasing order. `hasChanged_of_below` says that it has its initial value below the first of
them, and `hasChanged_of_between` that it has the other one from there up to the second.
-/

namespace JobPool.Text

/-- The property has changed an odd number of times up to a code point. -/
def hasChanged (changes : Array Nat) (code : Nat) : Bool :=
  (changes.toList.takeWhile (· ≤ code)).length % 2 == 1

/-- A property without changes keeps its initial value. -/
theorem hasChanged_empty (code : Nat) : hasChanged #[] code = false := rfl

/-- Below its first change a property has its initial value. -/
theorem hasChanged_of_below {changes : Array Nat} {first code : Nat} {later : List Nat}
    (begins : changes.toList = first :: later) (below : code < first) :
    hasChanged changes code = false := by
  simp [hasChanged, begins, below]

/-- Between its first two changes a property has the other value. -/
theorem hasChanged_of_between {changes : Array Nat} {first second code : Nat} {later : List Nat}
    (begins : changes.toList = first :: second :: later) (above : first ≤ code)
    (below : code < second) : hasChanged changes code = true := by
  simp [hasChanged, begins, above, below]

end JobPool.Text
