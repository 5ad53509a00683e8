/-!
# Rounding a quotient

The nearest whole number to a quotient, **a half going to the even neighbour**. Both the binary64
arithmetic and the layout of pixels round this way.

A quotient that was cut off one binary digit later holds nearly all that is needed: `roundHalves`
rounds from there, and `roundHalfEven_eq_roundHalves` says that it comes to the same.
-/

namespace ChipEight

/-- The nearest whole number to `n / d`, a half going to the even neighbour. -/
def roundHalfEven (n d : Nat) : Nat :=
  let q := n / d
  let r := n % d
  if 2 * r < d ∨ (2 * r = d ∧ q % 2 = 0) then q else q + 1

/-- Nothing is rounded where the division leaves no rest. -/
theorem roundHalfEven_mul {d : Nat} (hd : 0 < d) (q : Nat) : roundHalfEven (q * d) d = q := by
  simp [roundHalfEven, Nat.mul_div_cancel _ hd, hd]

theorem roundHalfEven_le (n d : Nat) : roundHalfEven n d ≤ n / d + 1 := by
  unfold roundHalfEven
  dsimp only
  split <;> omega

/-! ### The last binary digit -/

/-- A number of halves, rounded to a whole number. Whether there was nothing smaller than these
halves (`isTie`) is asked only where it decides. -/
@[macro_inline] def roundHalves (halves : Nat) (isTie : Bool) : Nat :=
  if halves % 2 = 0 || (halves / 2 % 2 = 0 && isTie) then halves / 2 else halves / 2 + 1

theorem roundHalves_le (halves : Nat) (isTie : Bool) :
    roundHalves halves isTie ≤ halves / 2 + 1 := by
  unfold roundHalves
  split <;> omega

/-- **A quotient with one more binary digit is enough to round it**, but for telling a half from
more than a half. -/
theorem roundHalfEven_eq_roundHalves (n : Nat) {d : Nat} (hd : 0 < d) :
    roundHalfEven n d = roundHalves (2 * n / d) (2 * n / d * d == 2 * n) := by
  have whole : d * (n / d) + n % d = n := Nat.div_add_mod n d
  have small := Nat.mod_lt n hd
  have twice : 2 * n = d * (2 * (n / d)) + 2 * (n % d) := by
    rw [Nat.mul_left_comm]
    omega
  have halves : 2 * n / d = 2 * (n / d) + 2 * (n % d) / d := by
    rw [twice, Nat.mul_add_div hd]
  rw [roundHalfEven, roundHalves]
  by_cases below : 2 * (n % d) < d
  · rw [halves, Nat.div_eq_of_lt below]
    simp [below]
  · have half : 2 * (n % d) / d = 1 := Nat.div_eq_of_lt_le (by omega) (by omega)
    have tie : ((2 * (n / d) + 1) * d == 2 * n) = decide (2 * (n % d) = d) := by
      rw [Bool.eq_iff_iff, beq_iff_eq, decide_eq_true_eq, twice, Nat.add_mul, Nat.one_mul,
        Nat.mul_comm d]
      omega
    have middle : (2 * (n / d) + 1) / 2 = n / d := by omega
    rw [halves, half, tie, middle]
    simp [below, and_comm]

/-! ### Signed numbers -/

/-- The same for a signed number: its magnitude is rounded and its sign kept, so that a half goes to
the even neighbour on both sides of zero. -/
def roundHalfEvenInt (z : Int) (d : Nat) : Int :=
  z.sign * (roundHalfEven z.natAbs d : Nat)

end ChipEight
