import ChipEight.HostError
import ChipEight.Table

/-!
# The screen

A monochrome grid of pixels, stored row by row. **Coordinates wrap**: any pair of whole numbers,
negative ones included, names the pixel with the same remainders modulo the width and the height, so
what leaves the screen on one side comes in on the other (`position_eq`).

A side can be set to any whole number, and a screen has as many cells as the product of its sides
says. With a side of zero there is no remainder, so that plotting and asking are a division by zero.
With one side below zero there are no cells, and every position is outside the table. With both
below zero there are cells again, and the remainders, which have the sign of the side, name each of
them by its position from the front or from the end; but such a screen has no column and no row that
could be listed or drawn. **Whether a point can be plotted hangs on the sides alone**, never on the
point.

A sprite is a column of bytes, one a row, the leftmost pixel in the high bit. Drawing turns over the
pixel under every set bit, and reports whether one of them was lit, which is what a program reads as
a **collision**.
-/

namespace ChipEight

/-- A grid of pixels, row by row. -/
structure Screen where
  width : Int
  height : Int
  cells : Array Bool
  size_cells : cells.size = (width * height).toNat

namespace Screen

@[ext] theorem ext {s t : Screen} (hw : s.width = t.width) (hh : s.height = t.height)
    (hc : s.cells = t.cells) : s = t := by
  cases s; cases t; cases hw; cases hh; cases hc; rfl

/-- A dark screen of the given size. -/
def blank (width height : Int) : Screen where
  width := width
  height := height
  cells := Array.replicate (width * height).toNat false
  size_cells := Array.size_replicate

/-- The size every program starts with. -/
def standard : Screen := blank 64 32

/-- The size of the high-resolution mode. -/
def highResolution : Screen := blank 64 64

instance : Inhabited Screen := ⟨standard⟩

/-- The product of the sides: how many pixels there are, if it is not below zero. -/
def size (s : Screen) : Int := s.width * s.height

/-- How many columns can be listed. -/
def columns (s : Screen) : Nat := s.width.toNat

/-- How many rows can be listed. -/
def rows (s : Screen) : Nat := s.height.toNat

/-- The same screen with every pixel dark. -/
def clear (s : Screen) : Screen := blank s.width s.height

/-- The pixel in column `p` and row `q`, both counted from the upper left. -/
def get (s : Screen) (p q : Nat) : Bool := s.cells.getD (q * s.columns + p) false

/-- Where a pixel of any coordinates lies among the cells, if there is a pixel at all. -/
def position (s : Screen) (x y : Int) : Except HostError Nat :=
  if s.width = 0 ∨ s.height = 0 then .error .divisionByZero
  else match signedIndex? s.cells.size (y.fmod s.height * s.width + x.fmod s.width) with
    | none => .error .badIndex
    | some k => .ok k.val

/-- Turns a pixel over. -/
def plot (s : Screen) (x y : Int) : Except HostError Screen :=
  (s.position x y).map fun k ↦
    { s with
      cells := s.cells.modify k (!·)
      size_cells := by rw [Array.size_modify, s.size_cells] }

/-- Whether a pixel is lit. -/
def isLit (s : Screen) (x y : Int) : Except HostError Bool :=
  (s.position x y).map fun k ↦ s.cells.getD k false

/-- The lit pixels, from the top row down and from left to right. -/
def litPixels (s : Screen) : List (Nat × Nat) :=
  (List.range s.rows).flatMap fun q ↦
    ((List.range s.columns).filter fun p ↦ s.get p q).map fun p ↦ (p, q)

/-- One row of pixels, from left to right. -/
def row (s : Screen) (q : Nat) : List Bool := (List.range s.columns).map fun p ↦ s.get p q

/-! ### Sprites -/

/-- The points under the set bits of one sprite row that starts at `(x, y)`. -/
def rowPoints (x y : Int) (bits : UInt8) : List (Int × Int) :=
  ((List.range 8).filter fun column ↦ bits.toNat.testBit (7 - column)).map fun column ↦
    (x + (column : Nat), y)

/-- The points under the set bits of a sprite whose upper left corner is at `(x, y)`. -/
def spritePoints (x y : Int) : List UInt8 → List (Int × Int)
  | [] => []
  | bits :: rest => rowPoints x y bits ++ spritePoints x (y + 1) rest

/-- Turns points over one after another, and says whether one of them was lit when its turn came. -/
def plotAll (s : Screen) : List (Int × Int) → Except HostError (Screen × Bool)
  | [] => .ok (s, false)
  | (x, y) :: rest => do
    let wasLit ← s.isLit x y
    let s' ← s.plot x y
    let (drawn, hit) ← s'.plotAll rest
    return (drawn, wasLit || hit)

/-! ### Laws -/

/-- **On a screen with sides above zero every point has a pixel**, that of its remainders. -/
theorem position_eq {s : Screen} (hw : 0 < s.width) (hh : 0 < s.height) (x y : Int) :
    s.position x y = .ok ((y % s.height).toNat * s.columns + (x % s.width).toNat) := by
  obtain ⟨w, hw'⟩ := Int.eq_ofNat_of_zero_le (Int.le_of_lt hw)
  obtain ⟨h, hh'⟩ := Int.eq_ofNat_of_zero_le (Int.le_of_lt hh)
  obtain ⟨p, hp⟩ := Int.eq_ofNat_of_zero_le (Int.emod_nonneg x (Int.ne_of_gt hw))
  obtain ⟨q, hq⟩ := Int.eq_ofNat_of_zero_le (Int.emod_nonneg y (Int.ne_of_gt hh))
  have hpw : p < w := by
    have := Int.emod_lt_of_pos x hw
    omega
  have hqh : q < h := by
    have := Int.emod_lt_of_pos y hh
    omega
  have hbound : q * w + p < w * h :=
    calc q * w + p < q * w + w := by omega
      _ = w * (q + 1) := by rw [Nat.mul_succ, Nat.mul_comm]
      _ ≤ w * h := Nat.mul_le_mul_left w hqh
  have hsize : s.cells.size = w * h := by
    rw [s.size_cells, hw', hh', ← Int.natCast_mul, Int.toNat_natCast]
  unfold position columns
  rw [if_neg (by omega), Int.fmod_eq_emod_of_nonneg _ (Int.le_of_lt hh),
    Int.fmod_eq_emod_of_nonneg _ (Int.le_of_lt hw), hp, hq, hw', ← Int.natCast_mul,
    ← Int.natCast_add, signedIndex?_natCast (by rw [hsize]; exact hbound)]
  rfl

/-- A pixel turned over leaves the size alone. -/
theorem size_of_plot {s t : Screen} {x y : Int} (h : s.plot x y = .ok t) :
    t.width = s.width ∧ t.height = s.height := by
  unfold plot at h
  cases hp : s.position x y with
  | error e => rw [hp] at h; exact nomatch h
  | ok k => rw [hp] at h; cases h; exact ⟨rfl, rfl⟩

end Screen

end ChipEight
