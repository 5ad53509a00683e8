/-!
# Powers of two

Two to the power `k` as a **shift of one bit**, which is how words and significands count. The laws
below are all that the arithmetic on binary numbers asks of it: it is positive, turns sums into
products, grows, and brackets a number by its `log2`.
-/

namespace ChipEight

/-- Two to the power `k`. -/
def twoPow (k : Nat) : Nat := 1 <<< k

theorem twoPow_add (j k : Nat) : twoPow (j + k) = twoPow j * twoPow k := by
  simp only [twoPow, Nat.one_shiftLeft]
  exact Nat.pow_add 2 j k

theorem twoPow_pos (k : Nat) : 0 < twoPow k := by
  simp only [twoPow, Nat.one_shiftLeft]
  exact Nat.two_pow_pos k

theorem twoPow_le {j k : Nat} (h : j ≤ k) : twoPow j ≤ twoPow k := by
  simp only [twoPow, Nat.one_shiftLeft]
  exact Nat.pow_le_pow_right (by decide) h

theorem twoPow_lt {j k : Nat} (h : j < k) : twoPow j < twoPow k := by
  simp only [twoPow, Nat.one_shiftLeft]
  exact Nat.pow_lt_pow_right (by decide) h

theorem twoPow_dvd {j k : Nat} (h : j ≤ k) : twoPow j ∣ twoPow k := by
  simp only [twoPow, Nat.one_shiftLeft]
  exact Nat.pow_dvd_pow 2 h

theorem twoPow_succ (k : Nat) : twoPow (k + 1) = 2 * twoPow k := by
  rw [Nat.add_comm, twoPow_add]
  rfl

theorem shiftRight_eq_div_twoPow (n k : Nat) : n >>> k = n / twoPow k := by
  simp only [twoPow, Nat.one_shiftLeft]
  exact Nat.shiftRight_eq_div_pow n k

theorem shiftLeft_eq_mul_twoPow (n k : Nat) : n <<< k = n * twoPow k := by
  simp only [twoPow, Nat.one_shiftLeft]
  exact Nat.shiftLeft_eq n k

/-! ### Bracketing by the logarithm -/

@[simp] theorem log2_twoPow (k : Nat) : (twoPow k).log2 = k := by
  simp only [twoPow, Nat.one_shiftLeft]
  exact Nat.log2_two_pow

theorem twoPow_log2_le {n : Nat} (h : n ≠ 0) : twoPow n.log2 ≤ n := by
  simp only [twoPow, Nat.one_shiftLeft]
  exact Nat.log2_self_le h

theorem lt_twoPow_log2 (n : Nat) : n < twoPow (n.log2 + 1) := by
  simp only [twoPow, Nat.one_shiftLeft]
  exact Nat.lt_log2_self

theorem log2_lt_iff {n k : Nat} (h : n ≠ 0) : n.log2 < k ↔ n < twoPow k := by
  simp only [twoPow, Nat.one_shiftLeft]
  exact Nat.log2_lt h

/-- One binary digit more is a logarithm greater by one. -/
theorem log2_eq_succ {n : Nat} (h : n / 2 ≠ 0) : n.log2 = (n / 2).log2 + 1 := by
  have low := twoPow_log2_le h
  have high := lt_twoPow_log2 (n / 2)
  have upper : n.log2 < (n / 2).log2 + 2 := by
    rw [log2_lt_iff (by omega), twoPow_succ]
    omega
  have lower : ¬ n.log2 < (n / 2).log2 + 1 := by
    rw [log2_lt_iff (by omega), twoPow_succ]
    omega
  omega

end ChipEight
