/-
**Texts without terminal sequences.**

A terminal takes some characters as commands: control characters, and sequences that begin with an
escape character. `stripped` leaves out what a terminal would not show, as far as it can be told
from the text: white space stays, also within a sequence, and what is shown ends the search for the
end of a sequence until the next character that is not.

* `stripped_of_shown` says that a text without such characters stays as it is;
* `stripped_stripped` says that nothing is left to strip.
-/

import JobPool.Text.Blank

namespace JobPool.Text

/-- Where in a sequence a terminal stands. -/
inductive SequenceState where
  | outside
  | escape
  | escapeTail
  | control
  | controlNumbers
  | controlTail
  | controlIgnored
  | device
  | deviceNumbers
  | deviceTail
  | deviceIgnored
  | deviceData
  | command
  | message
  deriving DecidableEq, Repr

/-- The number of a character lies between two others. -/
def within (first last : Nat) (char : Char) : Bool :=
  first ≤ char.toNat && char.toNat ≤ last

namespace SequenceState

/-- The sequence carries a text of its own, which is not shown. -/
def isText : SequenceState → Bool
  | device | deviceNumbers | deviceTail | deviceIgnored | deviceData | command | message => true
  | outside | escape | escapeTail | control | controlNumbers | controlTail | controlIgnored =>
    false

/-- The bytes of a character behind its first one. -/
def laterBytes (char : Char) : List Nat :=
  let code := char.toNat
  [code / 4096, code / 64, code].drop (4 - char.utf8Size) |>.map fun part => 0x80 + part % 64

/-- The state after a character beyond ASCII: the string terminator among its bytes ends some
texts. -/
def nextBeyond (state : SequenceState) (char : Char) : SequenceState :=
  match state with
  | deviceIgnored | deviceData | message =>
    if (laterBytes char).contains 0x9c then outside else state
  | _ => state

/-- The state after an ASCII character that is not the beginning or the end of every sequence. -/
def nextWithin (state : SequenceState) (char : Char) : SequenceState :=
  match state with
  | outside => outside
  | escape =>
    if within 0x20 0x2f char then escapeTail
    else if char = '[' then control
    else if char = ']' then command
    else if char = 'P' then device
    else if char = 'X' || char = '^' || char = '_' then message
    else if within 0x30 0x7e char then outside
    else escape
  | escapeTail => if within 0x30 0x7e char then outside else escapeTail
  | control =>
    if within 0x20 0x2f char then controlTail
    else if within 0x30 0x3f char then controlNumbers
    else if within 0x40 0x7e char then outside
    else control
  | controlNumbers =>
    if within 0x20 0x2f char then controlTail
    else if within 0x3c 0x3f char then controlIgnored
    else if within 0x40 0x7e char then outside
    else controlNumbers
  | controlTail =>
    if within 0x30 0x3f char then controlIgnored
    else if within 0x40 0x7e char then outside
    else controlTail
  | controlIgnored => if within 0x40 0x7e char then outside else controlIgnored
  | device =>
    if within 0x20 0x2f char then deviceTail
    else if within 0x30 0x3f char then deviceNumbers
    else if within 0x40 0x7e char then deviceData
    else device
  | deviceNumbers =>
    if within 0x20 0x2f char then deviceTail
    else if within 0x3c 0x3f char then deviceIgnored
    else if within 0x40 0x7e char then deviceData
    else deviceNumbers
  | deviceTail =>
    if within 0x30 0x3f char then deviceIgnored
    else if within 0x40 0x7e char then deviceData
    else deviceTail
  | deviceIgnored => deviceIgnored
  | deviceData => deviceData
  | command => if char = '\x07' then outside else command
  | message => message

/-- The state after a character. Cancel and substitute end every sequence. -/
def next (state : SequenceState) (char : Char) : SequenceState :=
  if 0x80 ≤ char.toNat then state.nextBeyond char
  else if char = '\x18' || char = '\x1a' then outside
  else if char = '\x1b' then escape
  else state.nextWithin char

/-- The character is shown. -/
def shows (state : SequenceState) (char : Char) : Bool :=
  if isAsciiBlank char && char ≠ ' ' then !state.isText
  else state = outside && (within 0x20 0x7e char || 0x80 ≤ char.toNat)

end SequenceState

/-- What is shown of a text. The flag says that the character before it was shown. -/
def strippedFrom (state : SequenceState) (shown : Bool) : List Char → List Char
  | [] => []
  | char :: rest =>
    if (if shown then SequenceState.outside else state).shows char then
      char :: strippedFrom (if 0x80 ≤ char.toNat then .outside else state) true rest
    else strippedFrom (state.next char) false rest

/-- What is shown of a text. -/
def stripped (text : List Char) : List Char := strippedFrom .outside false text

/-- A character that is shown anywhere is shown outside of sequences. -/
theorem shows_outside {state : SequenceState} {char : Char} (shown : state.shows char = true) :
    SequenceState.outside.shows char = true := by
  unfold SequenceState.shows at shown ⊢
  by_cases blank : (isAsciiBlank char && decide (char ≠ ' ')) = true
  · rw [if_pos blank]
    rfl
  · rw [if_neg blank] at shown ⊢
    rw [Bool.and_eq_true] at shown ⊢
    exact ⟨rfl, shown.2⟩

theorem shows_of_mem_strippedFrom (state : SequenceState) (shown : Bool) (text : List Char) :
    ∀ char ∈ strippedFrom state shown text, SequenceState.outside.shows char = true := by
  induction text generalizing state shown with
  | nil => simp [strippedFrom]
  | cons first rest hypothesis =>
    rw [strippedFrom]
    by_cases visible : (if shown then SequenceState.outside else state).shows first = true
    · rw [if_pos visible]
      intro char member
      rcases List.mem_cons.mp member with rfl | later
      · exact shows_outside visible
      · exact hypothesis _ _ char later
    · rw [if_neg visible]
      exact hypothesis _ _

theorem strippedFrom_of_shown (shown : Bool) (text : List Char)
    (all : ∀ char ∈ text, SequenceState.outside.shows char = true) :
    strippedFrom .outside shown text = text := by
  induction text generalizing shown with
  | nil => rfl
  | cons first rest hypothesis =>
    unfold strippedFrom
    simp only [ite_self, all first List.mem_cons_self, if_true]
    rw [hypothesis true fun char member => all char (List.mem_cons_of_mem first member)]

/-- A text that is shown as a whole stays as it is. -/
theorem stripped_of_shown (text : List Char)
    (all : ∀ char ∈ text, SequenceState.outside.shows char = true) : stripped text = text :=
  strippedFrom_of_shown false text all

/-- Nothing is left to strip. -/
theorem stripped_stripped (text : List Char) : stripped (stripped text) = stripped text :=
  stripped_of_shown _ (shows_of_mem_strippedFrom _ _ _)

end JobPool.Text
