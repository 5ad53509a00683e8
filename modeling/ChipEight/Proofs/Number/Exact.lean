import ChipEight.Proofs.Number.Bounds
import ChipEight.Proofs.Number.NearestEven

/-!
# Quotients that are exact

Dividing by a power of two moves the binary point and loses nothing, and neither does a product that
has no more than 53 significant bits. So where a number is shared out into a power of two of parts,
**each multiple of the part is rounded but once**, when it becomes a whole number
(`exists_quotient_scale`).
-/

namespace ChipEight

namespace Binary64

/-- A quotient with nothing left over is rounded like the whole number that it is. -/
theorem nearestRatio_mul (n : ℕ) {d : ℕ} (hd : 0 < d) : nearestRatio (n * d) d = nearest n := by
  have hspacing : 0 < spacing n := twoPow_pos _
  rw [nearest, nearestRatio_eq _ hd, nearestRatio_eq n Nat.one_pos, Nat.mul_div_cancel n hd,
    Nat.div_one, Nat.one_mul, Nat.mul_comm d, roundHalfEven_mul_mul n hspacing hd]

/-- At most 53 significant bits are kept as they are. -/
theorem exists_units_eq {m k : ℕ} (hm : m ≤ twoPow 53) (hk : 53 + k < 2098) :
    ∃ x : Finite, ofUnits (m * twoPow k : ℕ) = finite x ∧ x.units = (m * twoPow k : ℕ) := by
  have hbounded : m * twoPow k < limit :=
    calc m * twoPow k ≤ twoPow (53 + k) := twoPow_add 53 k ▸ Nat.mul_le_mul_right _ hm
      _ < limit := twoPow_lt_limit hk
  let x : Finite := ⟨(m * twoPow k : ℕ), nearest_mul_twoPow hm k, hbounded⟩
  exact ⟨x, ofUnits_units x, rfl⟩

/-- **A quotient by a power of two loses nothing.** -/
theorem exists_ofRatio_units_eq {n j k : ℕ} (hn : n ≤ twoPow 53) (hsum : k + j = 1074) :
    ∃ x : Finite, ofRatio n (twoPow j : ℕ) = finite x ∧ x.units = (n * twoPow k : ℕ) := by
  have hunits : n * one = n * twoPow k * twoPow j := by
    rw [one, ← hsum, twoPow_add, Nat.mul_assoc]
  have hexact : nearestRatio (n * one) (twoPow j) = nearest (n * twoPow k) := by
    rw [hunits, nearestRatio_mul _ (twoPow_pos j)]
  rw [ofRatio_eq_ofUnits hexact]
  exact exists_units_eq hn (by omega)

/-- **A whole number of parts is rounded once.** The number of units of a part is written as it
comes from a division by `2 ^ j`. -/
theorem nearestInt_scale {x : Finite} {n j k m : ℕ} (hx : x.units = (n * twoPow k : ℕ))
    (hsum : k + j = 1074) (hm : m * n ≤ twoPow 53) :
    nearestInt ((finite x).scale m) = .ok (nearestEven (m * n / twoPow j)) := by
  have hunits : (m : ℤ) * x.units = (m * n * twoPow k : ℕ) := by
    rw [hx, ← Int.natCast_mul, Nat.mul_assoc]
  obtain ⟨y, hy, hy'⟩ := exists_units_eq (k := k) hm (by omega)
  have hround : roundHalfEven (m * n * twoPow k) one = roundHalfEven (m * n) (twoPow j) := by
    rw [one, ← hsum, Nat.add_comm, twoPow_add,
      roundHalfEven_mul_mul _ (twoPow_pos j) (twoPow_pos k)]
  have hnonneg : (roundHalfEvenInt y.units one : ℤ) = roundHalfEven (m * n) (twoPow j) := by
    rw [hy', roundHalfEvenInt, Int.natAbs_natCast, hround]
    rcases Nat.eq_zero_or_pos (m * n * twoPow k) with hzero | hpos
    · rw [hzero, ← hround, hzero]
      rfl
    · rw [Int.sign_natCast_of_ne_zero hpos.ne', one_mul]
  rw [scale, hunits, hy, nearestInt, toNearestInt?, hnonneg,
    roundHalfEven_eq_nearestEven _ (twoPow_pos j)]
  push_cast
  rfl

end Binary64

/-- **The multiples of a part are where they should be**, each rounded to a whole number, as long as
the whole number that is shared out has bits to spare. -/
theorem exists_quotient_scale {n j : ℕ} (hn : n ≤ twoPow 53) (hj : j ≤ 1074) :
    ∃ q, quotient n (twoPow j : ℕ) = .ok q ∧ ∀ m : ℕ, m * n ≤ twoPow 53 →
      nearestInt (q.scale m) = .ok (nearestEven (m * n / twoPow j)) := by
  have hsum : 1074 - j + j = 1074 := Nat.sub_add_cancel hj
  obtain ⟨x, hx, hunits⟩ := Binary64.exists_ofRatio_units_eq hn hsum
  refine ⟨.finite x, ?_, fun m hm ↦ Binary64.nearestInt_scale hunits hsum hm⟩
  rw [quotient, if_neg (Int.natCast_ne_zero.2 (twoPow_pos j).ne'), hx]
  rfl

end ChipEight
