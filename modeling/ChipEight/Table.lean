/-!
# Tables and signed positions in them

A table is a vector of fixed length. It is read with `Vector.get` and changed with `setAt`, both at
a position that is known to be one; `get_setAt` is all there is to say about the two.

The host's tables are read with signed positions: `0 … n - 1` count from the front and `-1 … -n`
from the end. Anything else is no position at all.
-/

namespace ChipEight

/-- The entry that a signed position names in a table of `n` entries. -/
def signedIndex? (n : Nat) (z : Int) : Option (Fin n) :=
  let k := if z < 0 then z + n else z
  if h : 0 ≤ k ∧ k < n then some ⟨k.toNat, by omega⟩ else none

/-- The table with one entry changed. -/
def setAt {α : Type} {n : Nat} (table : Vector α n) (k : Fin n) (entry : α) : Vector α n :=
  table.set k.val entry k.isLt

/-! ### Laws -/

@[simp] theorem get_setAt {α : Type} {n : Nat} (table : Vector α n) (k j : Fin n) (entry : α) :
    (setAt table k entry).get j = if k = j then entry else table.get j := by
  change (table.set k.val entry k.isLt)[j.val] = if k = j then entry else table[j.val]
  simp only [Vector.getElem_set, Fin.ext_iff]

/-- A position from the front names itself. -/
theorem signedIndex?_natCast {n k : Nat} (h : k < n) : signedIndex? n k = some ⟨k, h⟩ := by
  have h0 : ¬ (k : Int) < 0 := by omega
  simp only [signedIndex?, h0, if_false]
  rw [dif_pos (by omega)]
  rfl

end ChipEight
