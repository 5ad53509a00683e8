/-!
# Splitting a text

A text cut at every occurrence of one character. There is always one piece more than there are cuts,
so nothing at all is one empty piece.
-/

namespace ChipEight

/-- The pieces of a text between the occurrences of `sep`. -/
def splitAt (sep : Char) : List Char → List (List Char)
  | [] => [[]]
  | c :: rest =>
    if c = sep then [] :: splitAt sep rest
    else match splitAt sep rest with
      | [] => [[c]]
      | piece :: more => (c :: piece) :: more

theorem splitAt_ne_nil (sep : Char) (cs : List Char) : splitAt sep cs ≠ [] := by
  cases cs with
  | nil => exact List.cons_ne_nil _ _
  | cons c rest =>
    rw [splitAt]
    split
    · exact List.cons_ne_nil _ _
    · split <;> exact List.cons_ne_nil _ _

/-- The lines of a text. -/
def linesOf (s : String) : List String := (splitAt '\n' s.toList).map String.ofList

end ChipEight
