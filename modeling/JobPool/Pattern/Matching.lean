/-
**Where patterns occur.**

A set of places of a text is a natural number: place `i` belongs to it if bit `i` is set.
`Pattern.reach` takes the set of places at which a pattern may begin to the set at which it may then
end, for all of them at once. Repetitions beyond the number of places bring nothing new, so their
number is cut there. A pattern occurs in a text if it may begin somewhere and reach an end.

* `testBit_placesWhere` says which places satisfy a condition;
* `reach_zero` says that without a beginning there is no end.
-/

import JobPool.Pattern.Meaning

namespace JobPool

/-! ## Sets of places -/

/-- The places below a bound that satisfy a condition. -/
def placesWhere (holds : Nat → Bool) : Nat → Nat
  | 0 => 0
  | bound + 1 => placesWhere holds bound ||| (if holds bound then 1 <<< bound else 0)

theorem testBit_placesWhere (holds : Nat → Bool) (bound place : Nat) :
    (placesWhere holds bound).testBit place = (decide (place < bound) && holds place) := by
  induction bound with
  | zero => simp [placesWhere]
  | succ bound hypothesis =>
    rw [placesWhere, Nat.testBit_or, hypothesis]
    have last : (if holds bound then 1 <<< bound else 0).testBit place =
        (decide (place = bound) && holds place) := by
      by_cases same : place = bound
      · subst same
        split <;> simp_all [Nat.one_shiftLeft]
      · have other : ¬bound = place := fun equal => same equal.symm
        split <;> simp [same, other, Nat.one_shiftLeft]
    rw [last]
    by_cases below : place < bound
    · have : place ≠ bound := by omega
      have : place < bound + 1 := by omega
      simp_all
    · by_cases same : place = bound
      · simp [same]
      · have : ¬place < bound + 1 := by omega
        simp [below, same, this]

/-- A step taken a number of times. -/
def iterate (step : Nat → Nat) : Nat → Nat → Nat
  | 0, places => places
  | rounds + 1, places => iterate step rounds (step places)

/-! ## Conditions -/

/-- A character that belongs to words: among the ASCII ones a letter, a digit or an underscore. -/
def isWordChar (char : Char) : Bool := LetterClass.word.accepts char

/-- A word boundary between two characters, none at the ends of the text. -/
def BoundaryKind.holds (kind : BoundaryKind) (before after : Option Char) : Bool :=
  let left := before.any isWordChar
  let right := after.any isWordChar
  match kind with
  | either => left != right
  | neither => left == right
  | start => !left && right
  | stop => left && !right
  | startHalf => !left
  | stopHalf => !right

/-- A condition between two characters, none at the ends of the text. -/
def PlaceCondition.holds (condition : PlaceCondition) (before after : Option Char) : Bool :=
  match condition with
  | textStart => before.isNone
  | textStop => after.isNone
  | lineStart returns =>
    before.isNone || before = some '\n' ||
      returns && before = some '\r' && after ≠ some '\n'
  | lineStop returns =>
    if returns then
      after.isNone || after = some '\r' || after = some '\n' && before ≠ some '\r'
    else after.isNone || after = some '\n'
  | boundary kind _ => kind.holds before after

namespace Pattern

/-! ## Occurrences -/

/-- The character before a place. -/
def before? (text : Array Char) (place : Nat) : Option Char :=
  if place = 0 then none else text[place - 1]?

/-- The places at which a pattern may end that begins at one of the given places. -/
def reach (text : Array Char) : Pattern → Nat → Nat
  | .empty, places => places
  | .one accepts _, places =>
    (places &&& placesWhere (fun place => text[place]?.any accepts) text.size) <<< 1
  | .condition needed, places =>
    places &&& placesWhere (fun place => needed.holds (before? text place) text[place]?)
      (text.size + 1)
  | .group part, places => part.reach text places
  | .followed first second, places => second.reach text (first.reach text places)
  | .either first second, places => first.reach text places ||| second.reach text places
  | .repeated least most part, places =>
    let enough := text.size + 1
    let begun := iterate (fun places => part.reach text places) (min least enough) places
    let further := match most with
      | none => enough
      | some most => min (most - least) enough
    iterate (fun places => places ||| part.reach text places) further begun

theorem iterate_zero {step : Nat → Nat} (still : step 0 = 0) (rounds : Nat) :
    iterate step rounds 0 = 0 := by
  induction rounds with
  | zero => rfl
  | succ rounds hypothesis => rw [iterate, still, hypothesis]

/-- Without a beginning there is no end. -/
theorem reach_zero (text : Array Char) (pattern : Pattern) : pattern.reach text 0 = 0 := by
  induction pattern with
  | empty => rfl
  | one accepts weight => simp [reach]
  | condition needed => simp [reach]
  | group part hypothesis => exact hypothesis
  | followed first second left right => rw [reach, left, right]
  | either first second left right => rw [reach, left, right]; rfl
  | repeated least most part hypothesis =>
    simp only [reach]
    rw [iterate_zero hypothesis]
    exact iterate_zero (by rw [hypothesis]; rfl) _

/-- The pattern occurs somewhere in a text. -/
def occursIn (pattern : Pattern) (text : String) : Bool :=
  let chars := text.toList.toArray
  pattern.reach chars (placesWhere (fun _ => true) (chars.size + 1)) != 0

end Pattern

end JobPool
