/-!
# Control sequences

A terminal takes some runs of characters for commands: an escape and an opening bracket, then any
number of parameters, then any number of intermediate characters, and **one final character, without
which there is no sequence**. A text for a reader who has no terminal is written without them.

What is left after a sequence was taken out is not looked at again, so pieces that come together
there stay.
-/

namespace ChipEight.ControlSequence

/-- A digit, a separator or a mark in front of the digits. -/
def isParameter (c : Char) : Bool := '0' ≤ c && c ≤ '?'

/-- A blank or a punctuation character below the digits. -/
def isIntermediate (c : Char) : Bool := ' ' ≤ c && c ≤ '/'

/-- The character that names the command. -/
def isFinal (c : Char) : Bool := '@' ≤ c && c ≤ '~'

/-- What comes after the sequence that begins with an escape, if one does. -/
def rest? : List Char → Option (List Char)
  | '[' :: body =>
    match (body.dropWhile isParameter).dropWhile isIntermediate with
    | c :: rest => if isFinal c then some rest else none
    | [] => none
  | _ => none

private theorem length_dropWhile_le (p : Char → Bool) (cs : List Char) :
    (cs.dropWhile p).length ≤ cs.length := (List.dropWhile_sublist p).length_le

theorem length_rest? {cs rest : List Char} (h : rest? cs = some rest) :
    rest.length < cs.length := by
  unfold rest? at h
  split at h
  · rename_i body
    split at h
    · rename_i c found hc
      split at h
      · cases h
        have h1 := length_dropWhile_le isIntermediate (body.dropWhile isParameter)
        have h2 := length_dropWhile_le isParameter body
        rw [hc, List.length_cons] at h1
        rw [List.length_cons]
        omega
      · exact nomatch h
    · exact nomatch h
  · exact nomatch h

/-- The text without its control sequences. -/
def remove : List Char → List Char
  | [] => []
  | c :: cs =>
    if c = '\x1b' then
      match _found : rest? cs with
      | some rest => remove rest
      | none => c :: remove cs
    else c :: remove cs
termination_by cs => cs.length
decreasing_by
  · have := length_rest? _found
    rw [List.length_cons]
    omega
  · exact Nat.lt_succ_self _
  · exact Nat.lt_succ_self _

end ChipEight.ControlSequence
