/-!
# Suggestions for a misspelled word

Two words are as similar as they have characters in common, counted block by block: the longest
common block is taken first (the leftmost in the first word, then in the second, if there are
several), and then the same is done to what lies before it and to what lies behind it. **Six
tenths** of all characters have to be in common for a word to be suggested, and at most three words
are.

Looking for blocks takes a time that grows with the product of the lengths. What two words have in
common is never more than the shorter of them, so words whose lengths alone keep them from six
tenths are **not compared at all**.
-/

namespace ChipEight.Suggestion

/-! ### What two texts have in common -/

/-- How many characters two texts have in common at their beginnings. -/
def commonStart : List Char → List Char → Nat
  | a :: as, b :: bs => if a = b then commonStart as bs + 1 else 0
  | _, _ => 0

/-- A block that two texts have in common: where it begins in each of them, and its length. -/
structure Block where
  left : Nat
  right : Nat
  size : Nat
  deriving DecidableEq, Repr

/-- The longest common block. -/
def longestBlock (a b : List Char) : Block :=
  let blocks := (List.range a.length).flatMap fun i ↦
    (List.range b.length).map fun j ↦ ⟨i, j, commonStart (a.drop i) (b.drop j)⟩
  blocks.foldl (fun best block ↦ if best.size < block.size then block else best) ⟨0, 0, 0⟩

/-- How many characters the blocks of two texts have in common, to a depth that the length of the
first text is enough for. -/
def inCommon : Nat → List Char → List Char → Nat
  | 0, _, _ => 0
  | depth + 1, a, b =>
    let block := longestBlock a b
    if block.size = 0 then 0
    else
      inCommon depth (a.take block.left) (b.take block.right) + block.size
        + inCommon depth (a.drop (block.left + block.size)) (b.drop (block.right + block.size))

/-! ### Similar words -/

/-- The similarity of two texts, as a numerator and a denominator. -/
def similarity (a b : List Char) : Nat × Nat := (2 * inCommon a.length a b, a.length + b.length)

/-- The fraction is six tenths or more, and not of nothing. -/
def isEnough (score : Nat × Nat) : Bool := decide (3 * score.2 ≤ 5 * score.1) && score.1 != 0

/-- The texts could be similar as far as their lengths go. -/
def isWithinReach (a b : List Char) : Bool :=
  isEnough (2 * min a.length b.length, a.length + b.length)

/-- The texts are similar enough for the one to be suggested for the other. -/
def isSimilar (a b : List Char) : Bool := isWithinReach a b && isEnough (similarity a b)

/-! ### The choice of suggestions -/

/-- One fraction is larger than another. -/
def exceeds (p q : Nat × Nat) : Bool := q.1 * p.2 < p.1 * q.2

/-- A candidate and its similarity, put behind all better ones. Of two equally good ones the word
that comes later in the alphabet is the better one. -/
def rank (entry : (Nat × Nat) × String) : List ((Nat × Nat) × String) → List ((Nat × Nat) × String)
  | [] => [entry]
  | old :: rest =>
    let isBetter := exceeds entry.1 old.1 || (!exceeds old.1 entry.1 && old.2 < entry.2)
    if isBetter then entry :: old :: rest else old :: rank entry rest

/-- The words to be suggested, in alphabetical order. -/
def suggest (word : String) (known : List String) : List String :=
  let letters := word.toList
  let similar := known.filter fun candidate ↦ isSimilar candidate.toList letters
  let scored := similar.map fun candidate ↦ (similarity candidate.toList letters, candidate)
  let best := (scored.foldl (fun ranked entry ↦ rank entry ranked) []).take 3
  (best.map (·.2)).mergeSort fun a b ↦ a ≤ b

end ChipEight.Suggestion
