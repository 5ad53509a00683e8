import ChipEight.Proofs.Screen.Drawing
import Mathlib.Data.List.Nodup
import Mathlib.Data.List.ProdSigma
import Mathlib.Data.Nat.ModEq

/-!
# Sprites without an order

A sprite is drawn point by point, but what comes of it can be said **without the order of its
points**, by its set bits (`setBits`) and the pixels they land on (`landing`). A pixel changes by
the parity of the bits that land on it (`TurnsOver.get_eq`). There is a collision exactly if a bit
lands on a pixel that was lit before, or on one that another bit lands on as well
(`TurnsOver.collision_iff_litUnder`); on a screen that is wide and high enough for the sprite no two
bits share a pixel (`not_shares`), and only what was lit before counts.

Drawing the same points again takes the drawing back (`TurnsOver.twice`). There is a collision then
exactly if a point found its pixel **dark** in the first place, or shares it with another point.
-/

namespace ChipEight.Screen

variable {s t u : Screen} {points : List (Int × Int)} {p q : Int × Int}
  {collision collision' : Bool}

/-! ### Points that share a pixel -/

theorem hits_append (s : Screen) (points more : List (Int × Int)) (p : Int × Int) :
    s.hits (points ++ more) p = s.hits points p + s.hits more p :=
  List.countP_append

theorem SamePixel.hits_eq (h : s.SamePixel q p) (points : List (Int × Int)) :
    s.hits points q = s.hits points p := by
  have hsame : (fun r ↦ decide (s.SamePixel r q)) = fun r ↦ decide (s.SamePixel r p) :=
    funext fun r ↦ decide_eq_decide.2 (by rw [SamePixel, SamePixel, h.1, h.2])
  rw [hits, hits, hsame]

theorem SamePixel.lit_eq (h : s.SamePixel q p) : s.lit q = s.lit p := by
  rw [lit, lit, cellIndex, cellIndex, h.1, h.2]

/-- A point is on its own pixel. -/
theorem hits_pos_of_mem (h : p ∈ points) : 0 < s.hits points p :=
  List.countP_pos_iff.2 ⟨p, h, decide_eq_true ⟨rfl, rfl⟩⟩

/-- Of the points on one pixel each has its turn. -/
theorem exists_hit {k : Nat} (h : k < s.hits points p) :
    ∃ before q after, points = before ++ q :: after ∧ s.SamePixel q p ∧ s.hits before p = k := by
  induction points generalizing k with
  | nil => exact absurd h (Nat.not_lt_zero k)
  | cons q rest ih =>
    rw [hits_cons] at h
    by_cases hq : s.SamePixel q p
    · rcases k with - | k
      · exact ⟨[], q, rest, rfl, hq, rfl⟩
      · rw [if_pos hq] at h
        obtain ⟨before, q', after, rfl, hsame, hcount⟩ := ih (Nat.lt_of_succ_lt_succ h)
        exact ⟨q :: before, q', after, rfl, hsame, by rw [hits_cons, hcount, if_pos hq]⟩
    · rw [if_neg hq] at h
      obtain ⟨before, q', after, rfl, hsame, hcount⟩ := ih h
      exact ⟨q :: before, q', after, rfl, hsame, by rw [hits_cons, hcount, if_neg hq, Nat.add_zero]⟩

/-! ### Collisions -/

/-- **Points collide with what was lit before, and with each other.** Of two points on a dark pixel
the first one lights it for the second. -/
theorem TurnsOver.collision_iff_hits (h : s.TurnsOver points t collision) :
    collision = true ↔ ∃ p ∈ points, s.lit p = true ∨ 2 ≤ s.hits points p := by
  rw [h.collision_iff]
  constructor
  · rintro ⟨before, p, after, rfl, hp⟩
    refine ⟨p, List.mem_append_right _ List.mem_cons_self, ?_⟩
    rcases hlit : s.lit p with - | -
    · rw [hlit, Bool.false_xor, oddHits, decide_eq_true_eq] at hp
      rw [hits_append, hits_cons, if_pos ⟨rfl, rfl⟩]
      exact .inr (by omega)
    · exact .inl rfl
  · rintro ⟨p, hmem, hp⟩
    -- A lit pixel is found by the first point on it, and a dark one is lit for the second.
    obtain ⟨k, hk, hfound⟩ : ∃ k < s.hits points p, (s.lit p ^^ decide (k % 2 = 1)) = true := by
      rcases hlit : s.lit p with - | -
      · exact ⟨1, hp.resolve_left (by rw [hlit]; decide), rfl⟩
      · exact ⟨0, hits_pos_of_mem hmem, rfl⟩
    obtain ⟨before, q, after, heq, hsame, hcount⟩ := exists_hit hk
    refine ⟨before, q, after, heq, ?_⟩
    rw [oddHits, hsame.hits_eq, hsame.lit_eq, hcount]
    exact hfound

/-! ### Drawing twice -/

/-- The column and the row of a cell are those of a point that lies there. -/
theorem cellIndex_of_lt {k : Nat} (h : s.HasPixels) (hk : k < s.cells.size) :
    s.cellIndex (((k % s.columns : Nat) : Int), ((k / s.columns : Nat) : Int)) = k := by
  have hpos : 0 < s.columns := Nat.zero_lt_of_lt (h.column_lt (0, 0))
  have hrow : k / s.columns < s.rows := (Nat.div_lt_iff_lt_mul hpos).2 (h.size_cells_eq_mul ▸ hk)
  rw [cellIndex, ← h.columns_eq, ← h.rows_eq, ← Int.natCast_emod, ← Int.natCast_emod,
    Int.toNat_natCast, Int.toNat_natCast, Nat.mod_mod, Nat.mod_eq_of_lt hrow, Nat.div_add_mod']

/-- **A screen is told by its sides and by what is lit on it.** -/
theorem eq_of_lit_eq (h : s.HasPixels) (hw : t.width = s.width) (hh : t.height = s.height)
    (hlit : ∀ p, t.lit p = s.lit p) : t = s := by
  have hsize : t.cells.size = s.cells.size := by rw [t.size_cells, s.size_cells, hw, hh]
  refine Screen.ext hw hh (Array.ext hsize fun k ht hs ↦ ?_)
  have hpixel := hlit (((k % s.columns : Nat) : Int), ((k / s.columns : Nat) : Int))
  have hcolumns : t.columns = s.columns := by rw [columns, columns, hw]
  have hindex := cellIndex_of_lt (h.of_sides hw hh) ht
  rw [hcolumns] at hindex
  rwa [lit, lit, hindex, cellIndex_of_lt h hs, Array.getD_eq_getD_getElem?,
    Array.getD_eq_getD_getElem?, Array.getElem?_eq_getElem ht,
    Array.getElem?_eq_getElem hs] at hpixel

/-- **Drawing the same points again takes the drawing back**, and they collide unless each of them
has found its pixel lit and had it for itself. -/
theorem TurnsOver.twice (h : s.TurnsOver points t collision) (h' : t.TurnsOver points u collision')
    (hs : s.HasPixels) :
    u = s ∧ (collision' = true ↔ ∃ p ∈ points, s.lit p = false ∨ 2 ≤ s.hits points p) := by
  have hlit : ∀ p, u.lit p = s.lit p := fun p ↦ by
    rw [h'.lit_eq, h.lit_eq, oddHits_congr h.width_eq h.height_eq, Bool.xor_assoc, Bool.xor_self,
      Bool.xor_false]
  refine ⟨eq_of_lit_eq hs (h'.width_eq.trans h.width_eq) (h'.height_eq.trans h.height_eq) hlit, ?_⟩
  rw [h'.collision_iff_hits]
  refine exists_congr fun p ↦ and_congr_right fun hmem ↦ ?_
  rw [hits_congr h.width_eq h.height_eq]
  by_cases htwo : 2 ≤ s.hits points p
  · exact iff_of_true (.inr htwo) (.inr htwo)
  · -- The point is the only one on its pixel, so the first drawing has turned it over.
    have hone : s.hits points p = 1 := by
      have := hits_pos_of_mem (s := s) hmem
      omega
    rw [h.lit_eq, oddHits, hone]
    simp

/-! ### The bits of a sprite -/

/-- The bit in a row and a column of a sprite is set; the leftmost one is the high bit. -/
def isSet (sprite : List UInt8) (row column : Nat) : Bool :=
  (sprite.getD row 0).toNat.testBit (7 - column)

/-- The set bits of a sprite, each by its row and its column, in the order of drawing. -/
def setBits (sprite : List UInt8) : List (Nat × Nat) :=
  (List.range sprite.length ×ˢ List.range 8).filter fun bit ↦ isSet sprite bit.1 bit.2

/-- The pixel that a bit lands on when the sprite is drawn at `(left, top)`, by its column and its
row. -/
def landing (s : Screen) (left top : Nat) (bit : Nat × Nat) : Nat × Nat :=
  ((left + bit.2) % s.columns, (top + bit.1) % s.rows)

/-- The pixel that a bit lands on is lit. -/
def litUnder (s : Screen) (left top : Nat) (bit : Nat × Nat) : Bool :=
  s.get (s.landing left top bit).1 (s.landing left top bit).2

theorem setBits_cons (bits : UInt8) (rest : List UInt8) :
    setBits (bits :: rest) =
      ((List.range 8).filter fun column ↦ bits.toNat.testBit (7 - column)).map (Prod.mk 0) ++
        (setBits rest).map fun bit ↦ (bit.1 + 1, bit.2) := by
  have hrest : (List.range rest.length).map Nat.succ ×ˢ List.range 8 =
      (List.range rest.length ×ˢ List.range 8).map fun bit ↦ (bit.1 + 1, bit.2) := by
    simp only [SProd.sprod, List.product, List.flatMap_map, List.map_flatMap, List.map_map]
    rfl
  rw [setBits, List.length_cons, List.range_succ_eq_map, List.product_cons, hrest,
    List.filter_append, List.filter_map, List.filter_map]
  rfl

theorem nodup_setBits (sprite : List UInt8) : (setBits sprite).Nodup :=
  List.Pairwise.filter _ (List.Nodup.product List.nodup_range List.nodup_range)

/-- The point under a bit of a sprite at `(x, y)`. -/
def pointUnder (x y : Int) (bit : Nat × Nat) : Int × Int := (x + bit.2, y + bit.1)

/-- **The points of a sprite are those under its set bits.** -/
theorem spritePoints_eq_map (x y : Int) (sprite : List UInt8) :
    spritePoints x y sprite = (setBits sprite).map (pointUnder x y) := by
  induction sprite generalizing y with
  | nil => rfl
  | cons bits rest ih =>
    have hnext : pointUnder x y ∘ (fun bit ↦ (bit.1 + 1, bit.2)) = pointUnder x (y + 1) :=
      funext fun bit ↦ Prod.ext rfl (by simp only [pointUnder, Function.comp_apply]; omega)
    have hfirst : pointUnder x y ∘ Prod.mk 0 = fun column : Nat ↦ (x + (column : Int), y) :=
      funext fun column ↦ Prod.ext rfl (Int.add_zero y)
    rw [spritePoints, ih, setBits_cons, List.map_append, List.map_map, List.map_map, hnext, hfirst,
      rowPoints]

/-! ### Where they land -/

/-- The pixel under a point, by its column and its row. -/
def pixel (s : Screen) (p : Int × Int) : Nat × Nat :=
  ((p.1 % s.width).toNat, (p.2 % s.height).toNat)

theorem samePixel_iff_pixel (h : s.HasPixels) : s.SamePixel p q ↔ s.pixel p = s.pixel q := by
  have hp := Int.emod_nonneg p.1 h.width_pos.ne'
  have hq := Int.emod_nonneg q.1 h.width_pos.ne'
  have hp' := Int.emod_nonneg p.2 h.height_pos.ne'
  have hq' := Int.emod_nonneg q.2 h.height_pos.ne'
  rw [SamePixel, pixel, pixel, Prod.mk.injEq]
  omega

theorem pixel_natCast (h : s.HasPixels) (x y : Nat) :
    s.pixel ((x : Int), (y : Int)) = (x % s.columns, y % s.rows) := by
  rw [pixel, ← h.columns_eq, ← h.rows_eq, ← Int.natCast_emod, ← Int.natCast_emod,
    Int.toNat_natCast, Int.toNat_natCast]

/-- A pixel of the screen is its own. -/
theorem pixel_of_lt (h : s.HasPixels) {p q : Nat} (hp : p < s.columns) (hq : q < s.rows) :
    s.pixel ((p : Int), (q : Int)) = (p, q) := by
  rw [pixel_natCast h, Nat.mod_eq_of_lt hp, Nat.mod_eq_of_lt hq]

theorem lit_of_lt (h : s.HasPixels) {p q : Nat} (hp : p < s.columns) (hq : q < s.rows) :
    s.lit ((p : Int), (q : Int)) = s.get p q := by
  show s.get (s.pixel (p, q)).1 (s.pixel (p, q)).2 = s.get p q
  rw [pixel_of_lt h hp hq]

section

variable {left top : Nat} {sprite : List UInt8}

/-- **Bits land on the pixel under their points.** -/
theorem pixel_pointUnder (h : s.HasPixels) (bit : Nat × Nat) :
    s.pixel (pointUnder left top bit) = s.landing left top bit := by
  rw [pointUnder, ← Int.natCast_add, ← Int.natCast_add, pixel_natCast h, landing]

theorem lit_pointUnder (h : s.HasPixels) (bit : Nat × Nat) :
    s.lit (pointUnder left top bit) = s.litUnder left top bit := by
  show s.get (s.pixel (pointUnder left top bit)).1 (s.pixel (pointUnder left top bit)).2 = _
  rw [pixel_pointUnder h, litUnder]

/-- How many of a sprite's bits land on a pixel. -/
theorem hits_spritePoints (h : s.HasPixels) (p : Int × Int) :
    s.hits (spritePoints left top sprite) p =
      (setBits sprite).countP fun bit ↦ s.landing left top bit = s.pixel p := by
  rw [hits, spritePoints_eq_map, List.countP_map]
  refine congrArg (List.countP · _) (funext fun bit ↦ decide_eq_decide.2 ?_)
  rw [samePixel_iff_pixel h, pixel_pointUnder h]

/-- Of different things in a list two have a property if it is counted twice. -/
theorem two_le_countP_iff {α : Type} [DecidableEq α] {l : List α} (hl : l.Nodup) {P : α → Bool}
    {a : α} (ha : a ∈ l) (hP : P a = true) : 2 ≤ l.countP P ↔ ∃ b ∈ l, b ≠ a ∧ P b = true := by
  have hfiltered : a ∈ l.filter P := List.mem_filter.2 ⟨ha, hP⟩
  have hlength := List.length_erase_of_mem hfiltered
  have hmem : ∀ b, b ∈ (l.filter P).erase a ↔ b ∈ l ∧ b ≠ a ∧ P b = true := fun b ↦ by
    rw [List.Nodup.mem_erase_iff (List.Pairwise.filter P hl), List.mem_filter]
    tauto
  rw [List.countP_eq_length_filter]
  constructor
  · intro htwo
    obtain ⟨b, hb⟩ := List.exists_mem_of_length_pos (l := (l.filter P).erase a) (by omega)
    exact ⟨b, (hmem b).1 hb⟩
  · rintro ⟨b, hb⟩
    have hpos := List.length_pos_of_mem ((hmem b).2 hb)
    omega

/-- Another bit of the sprite lands on the same pixel. -/
def Shares (s : Screen) (left top : Nat) (sprite : List UInt8) (bit : Nat × Nat) : Prop :=
  ∃ other ∈ setBits sprite, other ≠ bit ∧ s.landing left top other = s.landing left top bit

instance (s : Screen) (left top : Nat) (sprite : List UInt8) (bit : Nat × Nat) :
    Decidable (s.Shares left top sprite bit) :=
  inferInstanceAs (Decidable (∃ other ∈ _, _))

theorem two_le_hits_iff (h : s.HasPixels) {bit : Nat × Nat} (hbit : bit ∈ setBits sprite) :
    2 ≤ s.hits (spritePoints left top sprite) (pointUnder left top bit) ↔
      s.Shares left top sprite bit := by
  rw [hits_spritePoints h, pixel_pointUnder h,
    two_le_countP_iff (nodup_setBits sprite) hbit (decide_eq_true rfl), Shares]
  simp only [decide_eq_true_eq]

theorem exists_mem_spritePoints {P : Int × Int → Prop} {Q : Nat × Nat → Prop}
    (h : ∀ bit ∈ setBits sprite, (P (pointUnder left top bit) ↔ Q bit)) :
    (∃ p ∈ spritePoints left top sprite, P p) ↔ ∃ bit ∈ setBits sprite, Q bit := by
  rw [spritePoints_eq_map]
  constructor
  · rintro ⟨p, hp, hP⟩
    obtain ⟨bit, hbit, rfl⟩ := List.mem_map.1 hp
    exact ⟨bit, hbit, (h bit hbit).1 hP⟩
  · rintro ⟨bit, hbit, hQ⟩
    exact ⟨_, List.mem_map_of_mem hbit, (h bit hbit).2 hQ⟩

/-! ### What drawing a sprite does -/

/-- **A pixel changes by the parity of the bits that land on it.** -/
theorem TurnsOver.get_eq (h : s.TurnsOver (spritePoints left top sprite) t collision)
    (hs : s.HasPixels) {p q : Nat} (hp : p < s.columns) (hq : q < s.rows) :
    t.get p q = (s.get p q ^^
      decide (((setBits sprite).countP fun bit ↦ s.landing left top bit = (p, q)) % 2 = 1)) := by
  have hcolumns : t.columns = s.columns := by rw [columns, columns, h.width_eq]
  have hrows : t.rows = s.rows := by rw [rows, rows, h.height_eq]
  rw [← lit_of_lt (hs.of_sides h.width_eq h.height_eq) (hcolumns ▸ hp) (hrows ▸ hq), h.lit_eq,
    lit_of_lt hs hp hq, oddHits, hits_spritePoints hs, pixel_of_lt hs hp hq]

/-- **A sprite collides** where a bit lands on a pixel that was lit, or that it shares. -/
theorem TurnsOver.collision_iff_litUnder
    (h : s.TurnsOver (spritePoints left top sprite) t collision) (hs : s.HasPixels) :
    collision = true ↔ ∃ bit ∈ setBits sprite,
      s.litUnder left top bit = true ∨ s.Shares left top sprite bit := by
  rw [h.collision_iff_hits]
  refine exists_mem_spritePoints fun bit hbit ↦ ?_
  rw [lit_pointUnder hs, two_le_hits_iff hs hbit]

/-- **Drawn again, it is gone**, and it collides where a bit had landed on a pixel that was dark, or
that it shares. -/
theorem TurnsOver.collision_iff_dark_of_twice
    (h : s.TurnsOver (spritePoints left top sprite) t collision)
    (h' : t.TurnsOver (spritePoints left top sprite) u collision') (hs : s.HasPixels) :
    u = s ∧ (collision' = true ↔ ∃ bit ∈ setBits sprite,
      s.litUnder left top bit = false ∨ s.Shares left top sprite bit) := by
  obtain ⟨hback, hcollides⟩ := h.twice h' hs
  refine ⟨hback, hcollides.trans (exists_mem_spritePoints fun bit hbit ↦ ?_)⟩
  rw [lit_pointUnder hs, two_le_hits_iff hs hbit]

/-- **On a screen with room for the sprite no two bits share a pixel.** -/
theorem not_shares (hw : 8 ≤ s.width) (hh : (sprite.length : Int) ≤ s.height) {bit : Nat × Nat}
    (hbit : bit ∈ setBits sprite) : ¬ s.Shares left top sprite bit := by
  have hrange : ∀ bit ∈ setBits sprite, bit.1 < sprite.length ∧ bit.2 < 8 := by
    intro bit hbit
    obtain ⟨hrow, hcolumn⟩ := List.pair_mem_product.1 (List.mem_filter.1 hbit).1
    exact ⟨List.mem_range.1 hrow, List.mem_range.1 hcolumn⟩
  have hcolumns : 8 ≤ s.columns := by
    rw [columns]
    omega
  have hrows : sprite.length ≤ s.rows := by
    rw [rows]
    omega
  rintro ⟨other, hother, hne, heq⟩
  obtain ⟨hrow, hcolumn⟩ := hrange bit hbit
  obtain ⟨hrow', hcolumn'⟩ := hrange other hother
  obtain ⟨hx, hy⟩ := Prod.mk.inj heq
  refine hne (Prod.ext ?_ ?_)
  · exact (Nat.ModEq.add_left_cancel' top hy).eq_of_lt_of_lt (by omega) (by omega)
  · exact (Nat.ModEq.add_left_cancel' left hx).eq_of_lt_of_lt (by omega) (by omega)

/-- **So it collides with what was lit before, and with nothing else.** -/
theorem TurnsOver.collision_iff_of_room
    (h : s.TurnsOver (spritePoints left top sprite) t collision) (hs : s.HasPixels)
    (hw : 8 ≤ s.width) (hh : (sprite.length : Int) ≤ s.height) :
    collision = true ↔ ∃ bit ∈ setBits sprite, s.litUnder left top bit = true := by
  rw [h.collision_iff_litUnder hs]
  exact exists_congr fun bit ↦ and_congr_right fun hbit ↦ or_iff_left (not_shares hw hh hbit)

end

end ChipEight.Screen
