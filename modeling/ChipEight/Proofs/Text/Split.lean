import ChipEight.Text.Split

/-!
# Splitting what was put together

A text that was put together with a character between its parts is cut at these places again
(`splitAt_append`). So lines are found again, **whatever comes behind them** (`splitAt_lines`); the
last piece of a text that ends with a line's end is empty.
-/

namespace ChipEight

variable {sep : Char}

/-- **A text is cut between its parts.** -/
theorem splitAt_append (sep : Char) (cs rest : List Char) :
    splitAt sep (cs ++ sep :: rest) = splitAt sep cs ++ splitAt sep rest := by
  induction cs with
  | nil =>
    show splitAt sep (sep :: rest) = [] :: splitAt sep rest
    rw [splitAt, if_pos rfl]
  | cons c cs ih =>
    rw [List.cons_append, splitAt, splitAt, ih]
    split
    · rfl
    · obtain ⟨piece, more, hp⟩ := List.exists_cons_of_ne_nil (splitAt_ne_nil sep cs)
      rw [hp]
      rfl

theorem splitAt_of_not_mem {cs : List Char} (h : sep ∉ cs) : splitAt sep cs = [cs] := by
  induction cs with
  | nil => rfl
  | cons c cs ih =>
    rw [List.mem_cons, not_or] at h
    rw [splitAt, if_neg (Ne.symm h.1), ih h.2]

/-- Each of the texts, ended by the character. -/
def endedBy (sep : Char) (lines : List (List Char)) : List Char := lines.flatMap (· ++ [sep])

theorem endedBy_cons (sep : Char) (line : List Char) (lines : List (List Char)) :
    endedBy sep (line :: lines) = line ++ ([sep] ++ endedBy sep lines) :=
  List.append_assoc _ _ _

theorem endedBy_append (sep : Char) (lines more : List (List Char)) :
    endedBy sep (lines ++ more) = endedBy sep lines ++ endedBy sep more :=
  List.flatMap_append

/-- **Lines are found again.** -/
theorem splitAt_lines {lines : List (List Char)} (h : ∀ line ∈ lines, sep ∉ line)
    (rest : List Char) : splitAt sep (endedBy sep lines ++ rest) = lines ++ splitAt sep rest := by
  induction lines with
  | nil => rfl
  | cons line lines ih =>
    obtain ⟨hline, hlines⟩ := List.forall_mem_cons.1 h
    rw [endedBy_cons, List.append_assoc, List.append_assoc, List.singleton_append, splitAt_append,
      splitAt_of_not_mem hline, ih hlines]
    rfl

end ChipEight
