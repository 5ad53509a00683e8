import ChipEight.Number.Round
import Mathlib.Algebra.Ring.Int.Parity
import Mathlib.Data.Rat.Floor
import Mathlib.Tactic.Linarith

/-!
# Rounding fractions

The whole number nearest to a fraction, a half going to the even neighbour, said of the fraction
itself and not of a numerator and a denominator. Greater fractions are not rounded to smaller
numbers (`nearestEven_mono`), and whole numbers stay what they are; nothing else has to be known of
a rounding to share out the pixels of a window.

`roundHalfEven_eq_nearestEven` says that the rounding of quotients is this one. So it depends on the
fraction alone (`roundHalfEven_mul_mul`).
-/

namespace ChipEight

/-- The whole number nearest to a fraction, a half going to the even neighbour. -/
def nearestEven (x : ℚ) : ℤ :=
  if Int.fract x < 1 / 2 ∨ Int.fract x = 1 / 2 ∧ Even ⌊x⌋ then ⌊x⌋ else ⌊x⌋ + 1

theorem floor_le_nearestEven (x : ℚ) : ⌊x⌋ ≤ nearestEven x := by
  rw [nearestEven]
  split <;> omega

theorem nearestEven_le_floor_add_one (x : ℚ) : nearestEven x ≤ ⌊x⌋ + 1 := by
  rw [nearestEven]
  split <;> omega

@[simp] theorem nearestEven_intCast (z : ℤ) : nearestEven z = z := by
  rw [nearestEven, Int.fract_intCast, Int.floor_intCast, if_pos (.inl (by norm_num))]

/-- **Rounding keeps the order.** -/
theorem nearestEven_mono {x y : ℚ} (h : x ≤ y) : nearestEven x ≤ nearestEven y := by
  rcases (Int.floor_mono h).lt_or_eq with hlt | heq
  · calc nearestEven x ≤ ⌊x⌋ + 1 := nearestEven_le_floor_add_one x
      _ ≤ ⌊y⌋ := hlt
      _ ≤ nearestEven y := floor_le_nearestEven y
  · -- Between the same neighbours, what is rounded up is followed only by what is rounded up.
    have hfract : Int.fract x ≤ Int.fract y := by
      rw [Int.fract, Int.fract, heq]
      linarith
    rw [nearestEven, nearestEven, ← heq]
    split
    · split <;> omega
    · next hup =>
      rw [if_neg]
      rintro (hlt | ⟨hhalf, heven⟩)
      · exact hup (.inl (hfract.trans_lt hlt))
      · rcases (hhalf ▸ hfract).lt_or_eq with hlt | heq'
        · exact hup (.inl hlt)
        · exact hup (.inr ⟨heq', heven⟩)

/-- **The rounding of a quotient is that of the fraction.** -/
theorem roundHalfEven_eq_nearestEven (n : ℕ) {d : ℕ} (hd : 0 < d) :
    (roundHalfEven n d : ℤ) = nearestEven (n / d) := by
  have hd' : (0 : ℚ) < d := Nat.cast_pos.2 hd
  have hfloor : ⌊(n / d : ℚ)⌋ = (n / d : ℕ) := Rat.floor_natCast_div_natCast n d
  have hless : Int.fract (n / d : ℚ) < 1 / 2 ↔ 2 * (n % d) < d := by
    rw [Int.fract_div_natCast_eq_div_natCast_mod, div_lt_div_iff₀ hd' two_pos]
    norm_cast
    omega
  have hhalf : Int.fract (n / d : ℚ) = 1 / 2 ↔ 2 * (n % d) = d := by
    rw [Int.fract_div_natCast_eq_div_natCast_mod, div_eq_div_iff hd'.ne' two_ne_zero]
    norm_cast
    omega
  simp only [nearestEven, roundHalfEven, hfloor, hless, hhalf, Int.even_coe_nat, Nat.even_iff]
  split
  · rfl
  · push_cast
    rfl

/-- So a common factor is no matter. -/
theorem roundHalfEven_mul_mul (n : ℕ) {d c : ℕ} (hd : 0 < d) (hc : 0 < c) :
    roundHalfEven (n * c) (d * c) = roundHalfEven n d := by
  have hc' : (c : ℚ) ≠ 0 := Nat.cast_ne_zero.2 hc.ne'
  rw [← Nat.cast_inj (R := ℤ), roundHalfEven_eq_nearestEven _ (Nat.mul_pos hd hc),
    roundHalfEven_eq_nearestEven _ hd, Nat.cast_mul, Nat.cast_mul, mul_div_mul_right _ _ hc']

end ChipEight
