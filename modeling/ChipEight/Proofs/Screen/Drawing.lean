import ChipEight.Screen
import Mathlib.Data.List.Basic

/-!
# What drawing does to the pixels

On a screen with both sides above zero every pair of whole numbers names a pixel, so plotting never
fails. Drawing a list of points is then described **pixel by pixel and without an order**: a pixel
changes exactly if an odd number of the points falls on it (`TurnsOver.lit_eq`). Only the collision
depends on the order, because a point sees what the points before it have done
(`TurnsOver.collision_iff`).

`exists_turnsOver` is the statement that a drawing always succeeds and does this.
-/

namespace ChipEight

namespace Screen

variable {s t : Screen}

/-- Both sides are above zero. -/
structure HasPixels (s : Screen) : Prop where
  width_pos : 0 < s.width
  height_pos : 0 < s.height

/-- The number of cells is the product of the sides. -/
theorem HasPixels.size_cells_eq (h : s.HasPixels) : (s.cells.size : Int) = s.width * s.height := by
  rw [s.size_cells, Int.toNat_of_nonneg
    (Int.mul_nonneg (Int.le_of_lt h.width_pos) (Int.le_of_lt h.height_pos))]

theorem HasPixels.columns_eq (h : s.HasPixels) : (s.columns : Int) = s.width :=
  Int.toNat_of_nonneg (Int.le_of_lt h.width_pos)

theorem HasPixels.rows_eq (h : s.HasPixels) : (s.rows : Int) = s.height :=
  Int.toNat_of_nonneg (Int.le_of_lt h.height_pos)

/-- The cells are the rows, one behind the other. -/
theorem HasPixels.size_cells_eq_mul (h : s.HasPixels) : s.cells.size = s.rows * s.columns := by
  rw [s.size_cells, ← h.columns_eq, ← h.rows_eq, ← Int.natCast_mul, Int.toNat_natCast,
    Nat.mul_comm]

theorem HasPixels.of_sides (h : s.HasPixels) (hw : t.width = s.width) (hh : t.height = s.height) :
    t.HasPixels :=
  ⟨hw ▸ h.width_pos, hh ▸ h.height_pos⟩

theorem HasPixels.standard : Screen.standard.HasPixels := ⟨by decide, by decide⟩

theorem HasPixels.highResolution : Screen.highResolution.HasPixels := ⟨by decide, by decide⟩

/-! ### Points and pixels -/

/-- Two points lie on the same pixel. -/
def SamePixel (s : Screen) (p q : Int × Int) : Prop :=
  p.1 % s.width = q.1 % s.width ∧ p.2 % s.height = q.2 % s.height

instance (s : Screen) (p q : Int × Int) : Decidable (s.SamePixel p q) :=
  inferInstanceAs (Decidable (_ ∧ _))

theorem samePixel_congr (hw : t.width = s.width) (hh : t.height = s.height) (p q : Int × Int) :
    t.SamePixel p q ↔ s.SamePixel p q := by
  rw [SamePixel, SamePixel, hw, hh]

/-- Where the pixel under a point lies among the cells. -/
def cellIndex (s : Screen) (p : Int × Int) : Nat :=
  (p.2 % s.height).toNat * s.columns + (p.1 % s.width).toNat

/-- The pixel under a point is lit. -/
def lit (s : Screen) (p : Int × Int) : Bool := s.cells.getD (s.cellIndex p) false

theorem position_eq_cellIndex (h : s.HasPixels) (x y : Int) :
    s.position x y = .ok (s.cellIndex (x, y)) :=
  position_eq h.width_pos h.height_pos x y

theorem HasPixels.column_lt (h : s.HasPixels) (p : Int × Int) :
    (p.1 % s.width).toNat < s.columns := by
  have hlt := Int.emod_lt_of_pos p.1 h.width_pos
  have hpos := h.width_pos
  rw [columns]
  omega

/-- Every point has a cell. -/
theorem cellIndex_lt (h : s.HasPixels) (p : Int × Int) : s.cellIndex p < s.cells.size := by
  have hpos := h.height_pos
  have hlt := Int.emod_lt_of_pos p.2 hpos
  have hrows := h.rows_eq
  have hrow : (p.2 % s.height).toNat + 1 ≤ s.rows := by omega
  calc s.cellIndex p
      < (p.2 % s.height).toNat * s.columns + s.columns :=
        Nat.add_lt_add_left (h.column_lt p) _
    _ = ((p.2 % s.height).toNat + 1) * s.columns := (Nat.succ_mul _ _).symm
    _ ≤ s.rows * s.columns := Nat.mul_le_mul_right _ hrow
    _ = s.cells.size := h.size_cells_eq_mul.symm

/-- **Points share a cell exactly if they lie on the same pixel.** -/
theorem cellIndex_eq_iff (h : s.HasPixels) (p q : Int × Int) :
    s.cellIndex p = s.cellIndex q ↔ s.SamePixel p q := by
  have hp := h.column_lt p
  have hq := h.column_lt q
  constructor
  · intro heq
    have hcol : (p.1 % s.width).toNat = (q.1 % s.width).toNat := by
      have := congrArg (· % s.columns) heq
      simpa only [cellIndex, Nat.mul_add_mod_of_lt hp, Nat.mul_add_mod_of_lt hq] using this
    have hrow : (p.2 % s.height).toNat = (q.2 % s.height).toNat := by
      rw [cellIndex, cellIndex, hcol] at heq
      exact Nat.eq_of_mul_eq_mul_right (Nat.lt_of_le_of_lt (Nat.zero_le _) hp)
        (Nat.add_right_cancel heq)
    have hp1 := Int.emod_nonneg p.1 (Int.ne_of_gt h.width_pos)
    have hq1 := Int.emod_nonneg q.1 (Int.ne_of_gt h.width_pos)
    have hp2 := Int.emod_nonneg p.2 (Int.ne_of_gt h.height_pos)
    have hq2 := Int.emod_nonneg q.2 (Int.ne_of_gt h.height_pos)
    exact ⟨by omega, by omega⟩
  · rintro ⟨h1, h2⟩
    rw [cellIndex, cellIndex, h1, h2]

/-! ### Single points -/

/-- **Asking for a pixel never fails.** -/
theorem isLit_eq_lit (h : s.HasPixels) (x y : Int) : s.isLit x y = .ok (s.lit (x, y)) := by
  rw [isLit, position_eq_cellIndex h]
  rfl

/-- **Plotting never fails**, and turns over the one pixel under the point. -/
theorem exists_plot_eq (h : s.HasPixels) (x y : Int) :
    ∃ t, s.plot x y = .ok t ∧ t.width = s.width ∧ t.height = s.height ∧
      ∀ p, t.lit p = (s.lit p ^^ decide (s.SamePixel (x, y) p)) := by
  rw [plot, position_eq_cellIndex h]
  refine ⟨_, rfl, rfl, rfl, fun p ↦ ?_⟩
  show (s.cells.modify (s.cellIndex (x, y)) (!·)).getD (s.cellIndex p) false = _
  rw [Array.getD_eq_getD_getElem?, Array.getElem?_modify, lit, Array.getD_eq_getD_getElem?,
    Array.getElem?_eq_getElem (cellIndex_lt h p)]
  by_cases hsame : s.SamePixel (x, y) p
  · rw [if_pos ((cellIndex_eq_iff h _ _).2 hsame)]
    simp [hsame]
  · rw [if_neg fun heq ↦ hsame ((cellIndex_eq_iff h _ _).1 heq)]
    simp [hsame]

/-! ### Lists of points -/

/-- How many of the points fall on the pixel of `p`. -/
def hits (s : Screen) (points : List (Int × Int)) (p : Int × Int) : Nat :=
  points.countP fun q ↦ decide (s.SamePixel q p)

/-- An odd number of the points falls on the pixel of `p`. -/
def oddHits (s : Screen) (points : List (Int × Int)) (p : Int × Int) : Bool :=
  decide (s.hits points p % 2 = 1)

theorem hits_congr (hw : t.width = s.width) (hh : t.height = s.height)
    (points : List (Int × Int)) (p : Int × Int) : t.hits points p = s.hits points p := by
  simp only [hits, samePixel_congr hw hh]

theorem oddHits_congr (hw : t.width = s.width) (hh : t.height = s.height)
    (points : List (Int × Int)) (p : Int × Int) : t.oddHits points p = s.oddHits points p := by
  rw [oddHits, oddHits, hits_congr hw hh]

theorem hits_cons (s : Screen) (q : Int × Int) (points : List (Int × Int)) (p : Int × Int) :
    s.hits (q :: points) p = s.hits points p + if s.SamePixel q p then 1 else 0 := by
  simp only [hits, List.countP_cons, decide_eq_true_eq]

theorem oddHits_cons (s : Screen) (q : Int × Int) (points : List (Int × Int)) (p : Int × Int) :
    s.oddHits (q :: points) p = (decide (s.SamePixel q p) ^^ s.oddHits points p) := by
  rw [oddHits, oddHits, hits_cons]
  by_cases hsame : s.SamePixel q p
  · rcases Nat.mod_two_eq_zero_or_one (s.hits points p) with heven | hodd
    · simp [hsame, heven, Nat.add_mod]
    · simp [hsame, hodd, Nat.add_mod]
  · simp [hsame]

/-- The screen `t` is the screen `s` after the points have been turned over one after another, and
`collision` tells whether one of them was lit when its turn came. -/
structure TurnsOver (s : Screen) (points : List (Int × Int)) (t : Screen) (collision : Bool) :
    Prop where
  width_eq : t.width = s.width
  height_eq : t.height = s.height
  /-- A pixel changes if an odd number of points falls on it. -/
  lit_eq : ∀ p, t.lit p = (s.lit p ^^ s.oddHits points p)
  /-- A point finds its pixel as the points before it have left it. -/
  collision_iff : collision = true ↔
    ∃ before p after, points = before ++ p :: after ∧ (s.lit p ^^ s.oddHits before p) = true

/-- **Drawing never fails.** -/
theorem exists_turnsOver (h : s.HasPixels) (points : List (Int × Int)) :
    ∃ t collision, s.plotAll points = .ok (t, collision) ∧ s.TurnsOver points t collision := by
  induction points generalizing s with
  | nil =>
    refine ⟨s, false, rfl, rfl, rfl, fun p ↦ by simp [oddHits, hits], ?_⟩
    simp
  | cons q rest ih =>
    obtain ⟨s', hplot, hw, hh, hlit⟩ := exists_plot_eq h q.1 q.2
    obtain ⟨t, collision, hrest, htw, hth, htlit, hcoll⟩ := ih (h.of_sides hw hh)
    refine ⟨t, s.lit q || collision, ?_, htw.trans hw, hth.trans hh, fun p ↦ ?_, ?_⟩
    · rw [plotAll, isLit_eq_lit h, hplot]
      show (s'.plotAll rest >>= _) = _
      rw [hrest]
      rfl
    · rw [htlit, hlit, oddHits_cons, oddHits_congr hw hh, Bool.xor_assoc]
    · -- The first point finds the old pixel; the others find what it has left of it.
      have hstep : ∀ before p, (s'.lit p ^^ s'.oddHits before p) =
          (s.lit p ^^ s.oddHits (q :: before) p) := fun before p ↦ by
        rw [hlit, oddHits_cons, oddHits_congr hw hh, Bool.xor_assoc]
      rw [Bool.or_eq_true, hcoll]
      constructor
      · rintro (hq | ⟨before, p, after, rfl, hp⟩)
        · exact ⟨[], q, rest, rfl, by simpa [oddHits, hits] using hq⟩
        · exact ⟨q :: before, p, after, rfl, by rw [← hstep]; exact hp⟩
      · rintro ⟨before, p, after, heq, hp⟩
        cases before with
        | nil =>
          obtain ⟨rfl, -⟩ := List.cons.inj heq
          exact Or.inl (by simpa [oddHits, hits] using hp)
        | cons q' before =>
          obtain ⟨rfl, rfl⟩ := List.cons.inj heq
          exact Or.inr ⟨before, p, after, rfl, by rw [hstep]; exact hp⟩

/-- What was drawn has the sides of what it was drawn on, **also where it has no pixels**. -/
theorem sides_of_plotAll {points : List (Int × Int)} {collision : Bool}
    (h : s.plotAll points = .ok (t, collision)) : t.width = s.width ∧ t.height = s.height := by
  induction points generalizing s collision with
  | nil =>
    cases h
    exact ⟨rfl, rfl⟩
  | cons q rest ih =>
    rw [plotAll] at h
    rcases hlit : s.isLit q.1 q.2 with e | wasLit
    · rw [hlit] at h
      exact nomatch h
    rcases hplot : s.plot q.1 q.2 with e | s'
    · rw [hlit, hplot] at h
      exact nomatch h
    rw [hlit, hplot] at h
    change (s'.plotAll rest >>= _) = _ at h
    rcases hrest : s'.plotAll rest with e | ⟨drawn, hit⟩
    · rw [hrest] at h
      exact nomatch h
    rw [hrest] at h
    cases h
    obtain ⟨hwidth, hheight⟩ := size_of_plot hplot
    obtain ⟨hwidth', hheight'⟩ := ih hrest
    exact ⟨hwidth'.trans hwidth, hheight'.trans hheight⟩

/-! ### Longer sprites -/

/-- The rows of a longer sprite come behind those of its beginning. -/
theorem spritePoints_append (x y : Int) (rows more : List UInt8) :
    spritePoints x y (rows ++ more) =
      spritePoints x y rows ++ spritePoints x (y + rows.length) more := by
  induction rows generalizing y with
  | nil => rw [List.nil_append, List.length_nil, Int.natCast_zero, Int.add_zero]; rfl
  | cons bits rest ih =>
    rw [List.cons_append, spritePoints, spritePoints, ih, List.append_assoc, List.length_cons,
      show y + 1 + (rest.length : Int) = y + ((rest.length + 1 : Nat) : Int) by omega]

/-- **What refuses a drawing refuses every longer one.** -/
theorem plotAll_append_eq_error {e : HostError} {points : List (Int × Int)}
    (h : s.plotAll points = .error e) (more : List (Int × Int)) :
    s.plotAll (points ++ more) = .error e := by
  induction points generalizing s with
  | nil => exact nomatch h
  | cons q rest ih =>
    rw [plotAll] at h
    rw [List.cons_append, plotAll]
    cases hlit : s.isLit q.1 q.2 with
    | error e' => rw [hlit] at h; exact h
    | ok wasLit =>
      cases hplot : s.plot q.1 q.2 with
      | error e' => rw [hlit, hplot] at h; exact h
      | ok s' =>
        rw [hlit, hplot] at h
        change (s'.plotAll rest >>= _) = _ at h
        show (s'.plotAll (rest ++ more) >>= _) = _
        cases hrest : s'.plotAll rest with
        | error e' =>
          rw [hrest] at h
          cases h
          rw [ih hrest]
          rfl
        | ok drawn =>
          rw [hrest] at h
          exact nomatch h

end Screen

end ChipEight
