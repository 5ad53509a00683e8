/-!
# Numbers in the host's words

Whole numbers are unbounded here, but some parts of the host count in words: **64 bits with a sign**
for a count or an argument, of which a part may keep the low 32 bits only, and read these with a
sign again.
-/

namespace ChipEight

/-- The number can be counted in 64 bits with a sign. -/
def FitsWord (z : Int) : Prop := -9223372036854775808 ≤ z ∧ z ≤ 9223372036854775807

instance (z : Int) : Decidable (FitsWord z) := inferInstanceAs (Decidable (_ ∧ _))

/-- The number can be held in 32 bits with a sign. -/
def FitsHalf (z : Int) : Prop := -2147483648 ≤ z ∧ z < 2147483648

theorem FitsHalf.fitsWord {z : Int} (h : FitsHalf z) : FitsWord z := by
  obtain ⟨hlower, hupper⟩ := h
  constructor <;> omega

/-- The low 32 bits of a number, read with a sign. -/
def lowHalf (z : Int) : Int := z.bmod 4294967296

/-- A number that 32 bits with a sign can hold is kept. -/
theorem lowHalf_eq_self {z : Int} (h : FitsHalf z) : lowHalf z = z := by
  obtain ⟨hlower, hupper⟩ := h
  unfold lowHalf
  rw [Int.bmod_def]
  split <;> omega

end ChipEight
