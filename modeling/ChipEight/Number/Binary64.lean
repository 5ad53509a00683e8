import ChipEight.Number.PowerOfTwo
import ChipEight.Number.Round

/-!
# Binary64 numbers

Clock readings, the timer's accumulator and the size of a drawn pixel are binary64 numbers, and
their last bit can be seen. Every finite one is a **whole multiple of `2 ^ -1074`**, so here a
finite number is that multiple, and the arithmetic is exact arithmetic on whole numbers followed by
one rounding to 53 significant bits.

The rounding is idempotent (`nearest_nearestRatio`), which is why a number can carry the proof that
it is its own rounding, and why taking nothing away changes nothing (`sub_zero`).

**A result that is not below `2 ^ 1024` after its rounding is infinite.** An infinity swallows every
finite number that is taken from it, and two infinities that cancel leave what is no number at all.
Zero has no sign here, because no sign of a zero can be seen.
-/

namespace ChipEight

namespace Binary64

/-- The distance between neighbours with 53 significant bits, for a magnitude whose whole part is
`n` units. -/
def spacing (n : Nat) : Nat := twoPow (n.log2 - 52)

/-- The quotient `n / d`, rounded to 53 significant bits, a tie to the even neighbour. **One bit
more is kept until then**, and all behind it is cut off; what was cut off is looked at only where
that bit alone does not decide. -/
def nearestRatio (n d : Nat) : Nat :=
  let halves := 2 * n / d
  let cut := halves.log2 - 53
  let kept := halves >>> cut
  roundHalves kept ((kept <<< cut) * d == 2 * n) <<< cut

/-- A whole number of units, rounded to 53 significant bits. -/
def nearest (n : Nat) : Nat := nearestRatio n 1

/-- A rounded quotient is the **nearest multiple of the spacing**, a tie going to the even one. -/
theorem nearestRatio_eq (n : Nat) {d : Nat} (hd : 0 < d) :
    nearestRatio n d = roundHalfEven n (d * spacing (n / d)) * spacing (n / d) := by
  have half : 2 * n / d / 2 = n / d := by
    rw [Nat.div_div_eq_div_mul, Nat.mul_comm d, Nat.mul_div_mul_left _ _ (by decide)]
  have cut : (2 * n / d).log2 - 53 = (n / d).log2 - 52 := by
    by_cases h : n / d = 0
    · -- The quotient is below one, so twice the quotient has at most one bit.
      have one : 2 * n / d = 0 ∨ 2 * n / d = 1 := by omega
      rw [h]
      rcases one with one | one <;> rw [one] <;> decide
    · rw [log2_eq_succ (by rw [half]; exact h), half]
      omega
  rw [nearestRatio, cut, spacing, shiftRight_eq_div_twoPow, shiftLeft_eq_mul_twoPow,
    shiftLeft_eq_mul_twoPow, Nat.div_div_eq_div_mul,
    roundHalfEven_eq_roundHalves n (Nat.mul_pos hd (twoPow_pos _)), Nat.mul_assoc,
    Nat.mul_comm (twoPow _) d]

private theorem spacing_pos (n : Nat) : 0 < spacing n := twoPow_pos _

private theorem nearest_of_dvd {n : Nat} (h : spacing n ∣ n) : nearest n = n := by
  obtain ⟨q, hq⟩ := h
  have hpos := spacing_pos n
  have key : roundHalfEven n (spacing n) = q := by
    conv => lhs; arg 1; rw [hq, Nat.mul_comm]
    exact roundHalfEven_mul hpos q
  rw [nearest, nearestRatio_eq n Nat.one_pos, Nat.div_one, Nat.one_mul, key, Nat.mul_comm]
  exact hq.symm

/-- A magnitude of at most 53 significant bits is its own rounding. -/
theorem nearest_mul_twoPow {m : Nat} (hm : m ≤ twoPow 53) (k : Nat) :
    nearest (m * twoPow k) = m * twoPow k := by
  apply nearest_of_dvd
  by_cases h0 : m * twoPow k = 0
  · rw [h0]
    exact Nat.dvd_zero _
  have hle : m * twoPow k ≤ twoPow (53 + k) := by
    rw [twoPow_add]
    exact Nat.mul_le_mul_right _ hm
  have hlog : (m * twoPow k).log2 < 54 + k :=
    (log2_lt_iff h0).2 (Nat.lt_of_le_of_lt hle (twoPow_lt (by omega)))
  unfold spacing
  by_cases hk : (m * twoPow k).log2 - 52 ≤ k
  · exact Nat.dvd_trans (twoPow_dvd hk) (Nat.dvd_mul_left _ _)
  · -- The magnitude has one bit more than fits, so it is that one bit alone.
    have hfull : (m * twoPow k).log2 = 53 + k := by omega
    have hge : twoPow (53 + k) ≤ m * twoPow k := by
      rw [← hfull]
      exact twoPow_log2_le h0
    rw [Nat.le_antisymm hle hge]
    exact twoPow_dvd (by rw [log2_twoPow]; omega)

/-- **Rounding is idempotent**: a rounded quotient has at most 53 significant bits. -/
theorem nearest_nearestRatio (n d : Nat) : nearest (nearestRatio n d) = nearestRatio n d := by
  rw [nearestRatio, shiftLeft_eq_mul_twoPow]
  apply nearest_mul_twoPow
  refine Nat.le_trans (roundHalves_le _ _) ?_
  have kept : (2 * n / d) >>> ((2 * n / d).log2 - 53) < twoPow 54 := by
    rw [shiftRight_eq_div_twoPow, Nat.div_lt_iff_lt_mul (twoPow_pos _), ← twoPow_add]
    exact Nat.lt_of_lt_of_le (lt_twoPow_log2 _) (twoPow_le (by omega))
  rw [twoPow_succ] at kept
  omega

end Binary64

namespace Binary64

/-- The units of the first power of two that is out of range, `2 ^ 1024`. -/
def limit : Nat := twoPow 2098

/-- A finite binary64 number: a whole multiple of `2 ^ -1074` with at most 53 significant bits,
below the limit. -/
structure Finite where
  /-- How many times `2 ^ -1074`. -/
  units : Int
  /-- The number is its own rounding. -/
  rounded : nearest units.natAbs = units.natAbs
  bounded : units.natAbs < limit

@[ext] theorem Finite.ext {x y : Finite} (h : x.units = y.units) : x = y := by
  cases x; cases y; cases h; rfl

instance : DecidableEq Finite := fun x y ↦
  decidable_of_iff (x.units = y.units) ⟨Finite.ext, fun h ↦ h ▸ rfl⟩

end Binary64

/-- A binary64 number. -/
inductive Binary64 where
  | finite (x : Binary64.Finite)
  | infinite (isNegative : Bool)
  /-- What is left of two infinities that cancel. -/
  | notANumber
  deriving DecidableEq

namespace Binary64

/-- The units of one. -/
def one : Nat := twoPow 1074

/-- A magnitude with the sign of another number. -/
private def withSign (z : Int) (m : Nat) : Int := if z < 0 then -m else m

private theorem natAbs_withSign (z : Int) (m : Nat) : (withSign z m).natAbs = m := by
  unfold withSign
  split <;> omega

private theorem withSign_natAbs (z : Int) : withSign z z.natAbs = z := by
  unfold withSign
  split <;> omega

/-- A sign put on a rounded magnitude. -/
private def signed (z : Int) (m : Nat) (hm : nearest m = m) : Binary64 :=
  if h : m < limit then
    .finite
      { units := withSign z m
        rounded := by rw [natAbs_withSign]; exact hm
        bounded := by rw [natAbs_withSign]; exact h }
  else .infinite (z < 0)

/-- The binary64 number nearest to a whole number of units. -/
def ofUnits (z : Int) : Binary64 :=
  signed z (nearest z.natAbs) (nearest_nearestRatio _ _)

/-- The binary64 number nearest to the quotient of two whole numbers, of which the second is not
zero. -/
def ofRatio (n d : Int) : Binary64 :=
  signed (n * d.sign) (nearestRatio (n.natAbs * one) d.natAbs) (nearest_nearestRatio _ _)

instance : OfNat Binary64 0 := ⟨.finite ⟨0, by decide, twoPow_pos _⟩⟩

/-- The difference, rounded once. -/
protected def sub : Binary64 → Binary64 → Binary64
  | finite x, finite y => ofUnits (x.units - y.units)
  | finite _, infinite isNegative => infinite !isNegative
  | infinite isNegative, finite _ => infinite isNegative
  | infinite left, infinite right => if left = right then notANumber else infinite left
  | notANumber, _ => notANumber
  | _, notANumber => notANumber

instance : Sub Binary64 := ⟨Binary64.sub⟩

/-- The product with a whole number, rounded once. -/
def scale : Binary64 → Int → Binary64
  | finite x, k => ofUnits (k * x.units)
  | infinite isNegative, k => if k = 0 then notANumber else infinite (isNegative != decide (k < 0))
  | notANumber, _ => notANumber

/-- At or below zero. -/
def isNonpos : Binary64 → Bool
  | finite x => x.units ≤ 0
  | infinite isNegative => isNegative
  | notANumber => false

def isFinite : Binary64 → Bool
  | finite _ => true
  | _ => false

/-- The nearest whole number to a finite one, a half going to the even neighbour. -/
def toNearestInt? : Binary64 → Option Int
  | finite x => some (roundHalfEvenInt x.units one)
  | _ => none

/-! ### Laws -/

private theorem exists_signed_eq {z : Int} {m : Nat} {hm : nearest m = m} (h : m < limit) :
    ∃ x : Finite, signed z m hm = finite x ∧ x.units.natAbs = m := by
  rw [signed, dif_pos h]
  exact ⟨_, rfl, natAbs_withSign z m⟩

/-- A whole number of units is a finite number if its rounding is in range. -/
theorem exists_ofUnits_eq {z : Int} (h : nearest z.natAbs < limit) :
    ∃ x : Finite, ofUnits z = finite x ∧ x.units.natAbs = nearest z.natAbs :=
  exists_signed_eq h

/-- And so is a quotient. -/
theorem exists_ofRatio_eq {n d : Int} (h : nearestRatio (n.natAbs * one) d.natAbs < limit) :
    ∃ x : Finite, ofRatio n d = finite x ∧
      x.units.natAbs = nearestRatio (n.natAbs * one) d.natAbs :=
  exists_signed_eq h

private theorem signed_congr {z z' : Int} {m m' : Nat} {hm : nearest m = m} {hm' : nearest m' = m'}
    (hz : 0 ≤ z) (hz' : 0 ≤ z') (h : m = m') : signed z m hm = signed z' m' hm' := by
  subst h
  have hsign : withSign z m = withSign z' m := by
    rw [withSign, withSign, if_neg (Int.not_lt.2 hz), if_neg (Int.not_lt.2 hz')]
  simp only [signed, hsign, Int.not_lt.2 hz, Int.not_lt.2 hz']

/-- A quotient of natural numbers is a whole number of units that has the same rounding. -/
theorem ofRatio_eq_ofUnits {n d z : Nat} (h : nearestRatio (n * one) d = nearest z) :
    ofRatio n d = ofUnits z := by
  have hsign : 0 ≤ (d : Int).sign := by
    rcases d with - | d
    · exact Int.le_refl 0
    · exact Int.zero_le_ofNat 1
  exact signed_congr (Int.mul_nonneg (Int.natCast_nonneg n) hsign) (Int.natCast_nonneg z) h

/-- A finite number is the rounding of its own units. -/
@[simp] theorem ofUnits_units (x : Finite) : ofUnits x.units = finite x := by
  unfold ofUnits signed
  rw [dif_pos (by rw [x.rounded]; exact x.bounded)]
  refine congrArg finite (Finite.ext ?_)
  change withSign x.units (nearest x.units.natAbs) = x.units
  rw [x.rounded]
  exact withSign_natAbs x.units

theorem ofUnits_zero : ofUnits 0 = 0 := ofUnits_units ⟨0, by decide, twoPow_pos _⟩

/-- What is taken from itself is gone, unless it is infinite or no number. -/
theorem sub_self {x : Binary64} (h : x.isFinite = true) : x - x = 0 := by
  cases x with
  | finite x =>
    change ofUnits (x.units - x.units) = 0
    rw [Int.sub_self]
    exact ofUnits_zero
  | infinite _ => exact nomatch h
  | notANumber => exact nomatch h

/-- **Taking nothing away changes nothing**, although every difference is rounded. -/
@[simp] theorem sub_zero (x : Binary64) : x - 0 = x := by
  cases x with
  | finite x =>
    change ofUnits (x.units - 0) = finite x
    rw [Int.sub_zero]
    exact ofUnits_units x
  | infinite _ => rfl
  | notANumber => rfl

end Binary64

end ChipEight
