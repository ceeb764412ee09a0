/-
**Cuts at bytes.**

A text is stored in bytes, one to four for each character. `takeBytes?` cuts a text after a number
of bytes, which works only between two characters; `byteSize_of_takeBytes?` says that what it keeps
has that size, and `charAround?` names the character in the way of a cut. `takeWithin` gives up the
character in the way instead: `takeWithin_prefix` and `byteSize_takeWithin_le` say that it keeps a
beginning of the text within the limit.
-/

namespace JobPool.Text

/-- The size of a text in bytes. -/
def byteSize (text : List Char) : Nat := text.foldr (fun char size => char.utf8Size + size) 0

/-- The first bytes of a text, unless the cut lies behind its end or inside a character. -/
def takeBytes? : Nat → List Char → Option (List Char)
  | 0, _ => some []
  | _ + 1, [] => none
  | bytes + 1, char :: rest =>
    if char.utf8Size ≤ bytes + 1 then
      (takeBytes? (bytes + 1 - char.utf8Size) rest).map (char :: ·)
    else none

/-- What is kept has the size of the cut and begins the text. -/
theorem byteSize_of_takeBytes? {bytes : Nat} {text kept : List Char}
    (cut : takeBytes? bytes text = some kept) : byteSize kept = bytes ∧ kept <+: text := by
  induction text generalizing bytes kept with
  | nil =>
    cases bytes with
    | zero =>
      obtain rfl : [] = kept := Option.some.inj cut
      exact ⟨rfl, List.nil_prefix⟩
    | succ bytes => simp [takeBytes?] at cut
  | cons char rest ih =>
    cases bytes with
    | zero =>
      obtain rfl : [] = kept := Option.some.inj cut
      exact ⟨rfl, List.nil_prefix⟩
    | succ bytes =>
      unfold takeBytes? at cut
      split at cut
      · obtain ⟨others, found, rfl⟩ := Option.map_eq_some_iff.1 cut
        obtain ⟨size, leads⟩ := ih found
        refine ⟨?_, List.cons_prefix_cons.2 ⟨rfl, leads⟩⟩
        simp only [byteSize, List.foldr_cons] at size ⊢
        omega
      · simp at cut

/-- The character that a byte lies inside, with the byte at which the character starts. The text
itself starts at the second number. -/
def charAround? (byte : Nat) : Nat → List Char → Option (Nat × Char)
  | _, [] => none
  | start, char :: rest =>
    let stop := start + char.utf8Size
    if start < byte ∧ byte < stop then some (start, char) else charAround? byte stop rest

/-- The text up to a limit in bytes, cut before the character that exceeds it. -/
def takeWithin : Nat → List Char → List Char
  | _, [] => []
  | limit, char :: rest =>
    if char.utf8Size ≤ limit then char :: takeWithin (limit - char.utf8Size) rest else []

/-- What is kept begins the text. -/
theorem takeWithin_prefix (limit : Nat) (text : List Char) : takeWithin limit text <+: text := by
  induction text generalizing limit with
  | nil => exact List.nil_prefix
  | cons char rest hypothesis =>
    unfold takeWithin
    split
    · exact List.cons_prefix_cons.2 ⟨rfl, hypothesis _⟩
    · exact List.nil_prefix

/-- What is kept does not exceed the limit. -/
theorem byteSize_takeWithin_le (limit : Nat) (text : List Char) :
    byteSize (takeWithin limit text) ≤ limit := by
  induction text generalizing limit with
  | nil => exact Nat.zero_le _
  | cons char rest hypothesis =>
    unfold takeWithin
    split
    · have others := hypothesis (limit - char.utf8Size)
      simp only [byteSize, List.foldr_cons] at others ⊢
      omega
    · exact Nat.zero_le _

end JobPool.Text
