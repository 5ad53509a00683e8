import ChipEight.Number.Quotient

/-!
# Powers of two as bounds

A rounding does not go past a number that needs none. So **a power of two bounds a rounded result as
soon as it bounds the exact one**, which is all that has to be known of binary64 numbers where only
their size matters: quotients, products and whole numbers near them are in range because the exact
ones are.
-/

namespace ChipEight

theorem roundHalfEven_le_of_le {n d q : Nat} (hd : 0 < d) (h : n ≤ q * d) :
    roundHalfEven n d ≤ q := by
  have hq : n / d ≤ q := Nat.div_le_of_le_mul (by rwa [Nat.mul_comm])
  rcases Nat.lt_or_eq_of_le hq with hlt | heq
  · exact Nat.le_trans (roundHalfEven_le n d) hlt
  · -- Nothing is left over, because there is no room for it.
    have hmul : q * d ≤ n := heq ▸ Nat.div_mul_le_self n d
    exact Nat.le_of_eq (by rw [Nat.le_antisymm h hmul, roundHalfEven_mul hd])

namespace Binary64

theorem nearestRatio_le {n d k : Nat} (hd : 0 < d) (h : n ≤ d * twoPow k) :
    nearestRatio n d ≤ twoPow k := by
  have hdiv : n / d ≤ twoPow k := Nat.div_le_of_le_mul h
  have hlog : (n / d).log2 - 52 ≤ k := by
    by_cases hzero : n / d = 0
    · rw [hzero]
      exact Nat.zero_le k
    · have hlt := (log2_lt_iff hzero).2 (Nat.lt_of_le_of_lt hdiv (twoPow_lt (Nat.lt_succ_self k)))
      omega
  -- The bound is a multiple of the spacing, so the rounding stops there.
  have hsplit : twoPow k = twoPow (k - ((n / d).log2 - 52)) * spacing (n / d) := by
    rw [spacing, ← twoPow_add, Nat.sub_add_cancel hlog]
  have hle : roundHalfEven n (d * spacing (n / d)) ≤ twoPow (k - ((n / d).log2 - 52)) := by
    refine roundHalfEven_le_of_le (Nat.mul_pos hd (twoPow_pos _)) (Nat.le_trans h (Nat.le_of_eq ?_))
    rw [hsplit, Nat.mul_left_comm]
  rw [nearestRatio_eq n hd]
  exact Nat.le_trans (Nat.mul_le_mul_right _ hle) (Nat.le_of_eq hsplit.symm)

theorem twoPow_lt_limit {k : Nat} (hk : k < 2098) : twoPow k < limit := twoPow_lt hk

/-- The number is finite, and at most `2 ^ k` units in size. -/
def Within (k : Nat) (x : Binary64) : Prop := ∃ y : Finite, x = finite y ∧ y.units.natAbs ≤ twoPow k

theorem within_ofRatio {n d : Int} {k : Nat} (hk : k < 2098) (hd : d ≠ 0)
    (h : n.natAbs * one ≤ d.natAbs * twoPow k) : (ofRatio n d).Within k := by
  have hle := nearestRatio_le (Int.natAbs_pos.2 hd) h
  obtain ⟨x, hx, hunits⟩ := exists_ofRatio_eq (Nat.lt_of_le_of_lt hle (twoPow_lt_limit hk))
  exact ⟨x, hx, hunits ▸ hle⟩

theorem within_ofUnits {z : Int} {k : Nat} (hk : k < 2098) (h : z.natAbs ≤ twoPow k) :
    (ofUnits z).Within k := by
  have hle : nearest z.natAbs ≤ twoPow k := nearestRatio_le Nat.one_pos (by rwa [Nat.one_mul])
  obtain ⟨x, hx, hunits⟩ := exists_ofUnits_eq (Nat.lt_of_le_of_lt hle (twoPow_lt_limit hk))
  exact ⟨x, hx, hunits ▸ hle⟩

/-- A product with at most `2 ^ j` has at most `j` bits more. -/
theorem Within.scale {x : Binary64} {k j : Nat} (h : x.Within k) (hk : k + j < 2098) {m : Int}
    (hm : m.natAbs ≤ twoPow j) : (x.scale m).Within (k + j) := by
  obtain ⟨y, rfl, hy⟩ := h
  refine within_ofUnits hk ?_
  rw [Int.natAbs_mul, twoPow_add, Nat.mul_comm (twoPow k)]
  exact Nat.mul_le_mul hm hy

/-- A number of at most `2 ^ k` whole units of one is near a whole number of that size. -/
theorem Within.nearestInt {x : Binary64} {k : Nat} (h : x.Within (k + 1074)) :
    ∃ z, nearestInt x = .ok z ∧ z.natAbs ≤ twoPow k := by
  obtain ⟨y, rfl, hy⟩ := h
  refine ⟨roundHalfEvenInt y.units one, rfl, ?_⟩
  have hround : roundHalfEven y.units.natAbs one ≤ twoPow k :=
    roundHalfEven_le_of_le (twoPow_pos _) (twoPow_add k 1074 ▸ hy)
  have hsign : y.units.sign.natAbs ≤ 1 := by
    rw [Int.natAbs_sign]
    split <;> decide
  rw [roundHalfEvenInt, Int.natAbs_mul, Int.natAbs_natCast]
  exact Nat.le_trans (Nat.mul_le_mul hsign hround) (Nat.le_of_eq (Nat.one_mul _))

end Binary64

/-- A quotient by `2 ^ j` of a number of at most `2 ^ (k + j)`. -/
theorem exists_quotient_eq {n d : Int} {k j : Nat} (hk : k + 1074 < 2098)
    (hd : d.natAbs = twoPow j) (hn : n.natAbs ≤ twoPow (k + j)) :
    ∃ q, quotient n d = .ok q ∧ q.Within (k + 1074) := by
  have hne : d ≠ 0 := fun h ↦ by
    have := twoPow_pos j
    rw [h] at hd
    omega
  have hwithin : (Binary64.ofRatio n d).Within (k + 1074) := by
    refine Binary64.within_ofRatio hk hne ?_
    rw [hd, Nat.add_comm k 1074, twoPow_add, Nat.mul_left_comm, ← twoPow_add, Nat.add_comm j k,
      Nat.mul_comm]
    exact Nat.mul_le_mul_left _ hn
  obtain ⟨x, hx, hle⟩ := hwithin
  refine ⟨_, ?_, x, hx, hle⟩
  rw [quotient, if_neg hne, hx]
  rfl

end ChipEight
