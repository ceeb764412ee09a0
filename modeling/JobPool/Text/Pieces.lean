/-
**Pieces of a text.**

A mark divides a text into pieces, one more than there are marks. Joining the pieces by the mark
gives the text again (`joined_pieces`), and no piece holds the mark (`not_mem_of_mem_pieces`).
The lines of a text are its pieces between line feeds.
-/

namespace JobPool.Text

/-- The pieces of a text between the marks. -/
def pieces (mark : Char) : List Char → List (List Char)
  | [] => [[]]
  | char :: rest =>
    if char = mark then [] :: pieces mark rest
    else
      match pieces mark rest with
      | [] => [[char]]
      | first :: others => (char :: first) :: others

theorem pieces_ne_nil (mark : Char) (text : List Char) : pieces mark text ≠ [] := by
  cases text with
  | nil => simp [pieces]
  | cons char rest =>
    unfold pieces
    split
    · simp
    · split <;> simp

/-- The pieces joined by the mark are the text. -/
theorem joined_pieces (mark : Char) (text : List Char) :
    List.intercalate [mark] (pieces mark text) = text := by
  induction text with
  | nil => simp [pieces, List.intercalate]
  | cons char rest hypothesis =>
    have filled := pieces_ne_nil mark rest
    unfold pieces
    split
    next same =>
      cases divided : pieces mark rest with
      | nil => exact absurd divided filled
      | cons first others =>
        rw [divided] at hypothesis
        rw [← hypothesis, same]
        simp [List.intercalate, List.intersperse]
    next =>
      cases divided : pieces mark rest with
      | nil => exact absurd divided filled
      | cons first others =>
        rw [divided] at hypothesis
        rw [← hypothesis]
        cases others <;> simp [List.intercalate, List.intersperse]

/-- No piece holds the mark. -/
theorem not_mem_of_mem_pieces (mark : Char) (text piece : List Char)
    (member : piece ∈ pieces mark text) : mark ∉ piece := by
  induction text generalizing piece with
  | nil => simp_all [pieces]
  | cons char rest hypothesis =>
    unfold pieces at member
    split at member
    · rcases List.mem_cons.mp member with rfl | later
      · simp
      · exact hypothesis piece later
    next differs =>
      cases divided : pieces mark rest with
      | nil => exact absurd divided (pieces_ne_nil mark rest)
      | cons first others =>
        rw [divided] at member hypothesis
        rcases List.mem_cons.mp member with rfl | later
        · have := hypothesis first List.mem_cons_self
          simp [this, Ne.symm differs]
        · exact hypothesis piece (List.mem_cons_of_mem first later)

/-- A line without the carriage return at its end. -/
def withoutReturn (line : List Char) : List Char :=
  if line.getLast? = some '\r' then line.dropLast else line

/-- The lines of a text. A carriage return before a line feed belongs to the end of the line, and a
line feed at the end of the text opens no other line. -/
def lines (text : List Char) : List (List Char) :=
  let all := pieces '\n' text
  let ended := all.dropLast.map withoutReturn
  match all.getLast? with
  | none | some [] => ended
  | some last => ended ++ [last]

end JobPool.Text
