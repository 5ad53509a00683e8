import ChipEight.Proofs.Display.Painting
import ChipEight.Proofs.Number.Exact

/-!
# The cells of a screen tile its window

The columns of a screen share the width of its window, and the rows its height. A share begins where
the exact multiple of its size is rounded to (`border`), and it ends where the next one begins. So
the shares **follow each other without gaps and without overlaps** (`exists_share`, `share_unique`),
since rounding keeps the order, and the last one ends with the window. A window of whatever size is
tiled by the cells in this way; where it is small, some of them are empty.

`HasSides.draw_eq` says what drawing comes to: for each lit pixel the rectangle is painted that the
host makes of the numbers of its cell. **Where the numbers are small these are the cells**, and then
every point of the window has the color of the one pixel whose cell it is in (`cells_tile_window`).
In a window of more than `2 ^ 31` points they need not be small, and `cell_misplaced` is a cell that
is painted outside of the window, by a host that keeps the low halves of the numbers.
-/

namespace ChipEight

/-! ### Shares of a side -/

/-- Where the `k`-th of `n` shares of a side begins: the multiple of its exact size, rounded. -/
def border (side : ℤ) (n k : ℕ) : ℤ := nearestEven (k * side / n)

variable {side x : ℤ} {n k l : ℕ}

@[simp] theorem border_zero (side : ℤ) (n : ℕ) : border side n 0 = 0 := by
  rw [border, Nat.cast_zero, zero_mul, zero_div]
  exact nearestEven_intCast 0

/-- The last share ends with the side. -/
theorem border_self (side : ℤ) (hn : 0 < n) : border side n n = side := by
  rw [border, mul_div_cancel_left₀ _ (Nat.cast_ne_zero.2 hn.ne'), nearestEven_intCast]

/-- **Later shares do not begin earlier.** -/
theorem border_mono (hside : 0 ≤ side) (n : ℕ) (hkl : k ≤ l) :
    border side n k ≤ border side n l := by
  have hside' : (0 : ℚ) ≤ side := by exact_mod_cast hside
  have hkl' : (k : ℚ) ≤ l := Nat.cast_le.2 hkl
  exact nearestEven_mono
    (div_le_div_of_nonneg_right (mul_le_mul_of_nonneg_right hkl' hside') (Nat.cast_nonneg n))

theorem border_nonneg (hside : 0 ≤ side) (n k : ℕ) : 0 ≤ border side n k := by
  rw [← border_zero side n]
  exact border_mono hside n (Nat.zero_le k)

theorem border_le (hside : 0 ≤ side) (hk : k ≤ n) : border side n k ≤ side := by
  rcases Nat.eq_zero_or_pos n with rfl | hn
  · rw [Nat.le_zero.1 hk, border_zero]
    exact hside
  · exact (border_mono hside n hk).trans (border_self side hn).le

/-- The point of a side lies in the share. -/
def InShare (side : ℤ) (n k : ℕ) (x : ℤ) : Prop := border side n k ≤ x ∧ x < border side n (k + 1)

instance (side : ℤ) (n k : ℕ) (x : ℤ) : Decidable (InShare side n k x) :=
  inferInstanceAs (Decidable (_ ∧ _))

/-- **No point lies in two shares.** -/
theorem share_unique (hside : 0 ≤ side) (hk : InShare side n k x) (hl : InShare side n l x) :
    k = l := by
  obtain ⟨hk₁, hk₂⟩ := hk
  obtain ⟨hl₁, hl₂⟩ := hl
  rcases Nat.lt_trichotomy k l with hlt | heq | hlt
  · exact absurd (hk₂.trans_le ((border_mono hside n hlt).trans hl₁)) (Int.lt_irrefl x)
  · exact heq
  · exact absurd (hl₂.trans_le ((border_mono hside n hlt).trans hk₁)) (Int.lt_irrefl x)

/-- **Every point lies in a share**: in the one before the first that begins beyond it. -/
theorem exists_share (hn : 0 < n) (hx : 0 ≤ x) (hx' : x < side) : ∃ k < n, InShare side n k x := by
  have hbeyond : ∃ k, x < border side n k := ⟨n, by rwa [border_self side hn]⟩
  obtain ⟨k, hk⟩ : ∃ k, Nat.find hbeyond = k + 1 := by
    refine Nat.exists_eq_succ_of_ne_zero fun hzero ↦ ?_
    have hfirst := Nat.find_spec hbeyond
    rw [hzero, border_zero] at hfirst
    omega
  have hle : Nat.find hbeyond ≤ n := Nat.find_min' hbeyond (by rwa [border_self side hn])
  refine ⟨k, by omega, not_lt.1 (Nat.find_min hbeyond (by omega)), ?_⟩
  rw [← hk]
  exact Nat.find_spec hbeyond

/-! ### Rectangles -/

namespace Rect

instance (r : Rect) (p q : ℤ) : Decidable (r.Contains p q) := inferInstanceAs (Decidable (_ ∧ _))

/-- The rectangle with the low halves of its numbers, which is what a host keeps of it that makes
its rectangles by `ofNumbers`. -/
def kept (r : Rect) : Rect := ⟨lowHalf r.x, lowHalf r.y, lowHalf r.width, lowHalf r.height⟩

/-- No number of the rectangle is too large for 32 bits with a sign. -/
structure Small (r : Rect) : Prop where
  x_lt : r.x < 2147483648
  y_lt : r.y < 2147483648
  width_lt : r.width < 2147483648
  height_lt : r.height < 2147483648

/-- No number of the rectangle is below zero, and it ends within the sides. -/
structure Inside (width height : ℤ) (r : Rect) : Prop where
  x_nonneg : 0 ≤ r.x
  y_nonneg : 0 ≤ r.y
  width_nonneg : 0 ≤ r.width
  height_nonneg : 0 ≤ r.height
  right_le : r.x + r.width ≤ width
  bottom_le : r.y + r.height ≤ height

/-- No point lies in both rectangles. -/
def Apart (r r' : Rect) : Prop := ∀ p q, ¬ (r.Contains p q ∧ r'.Contains p q)

variable {r : Rect} {width height : ℤ}

theorem Inside.small (h : r.Inside width height) (hwidth : width < 2147483648)
    (hheight : height < 2147483648) : r.Small := by
  obtain ⟨hx, hy, hw, hh, hright, hbottom⟩ := h
  exact ⟨by omega, by omega, by omega, by omega⟩

/-- The numbers fit words if the sides do. -/
theorem Inside.fitsWord (h : r.Inside width height) (hwidth : width < 2 ^ 40)
    (hheight : height < 2 ^ 40) :
    FitsWord r.x ∧ FitsWord r.y ∧ FitsWord r.width ∧ FitsWord r.height := by
  obtain ⟨hx, hy, hw, hh, hright, hbottom⟩ := h
  simp only [FitsWord]
  omega

/-- And halves of words if they are small. -/
theorem Inside.fitsHalf (h : r.Inside width height) (hsmall : r.Small) :
    FitsHalf r.x ∧ FitsHalf r.y ∧ FitsHalf r.width ∧ FitsHalf r.height := by
  obtain ⟨hx, hy, hw, hh, -, -⟩ := h
  obtain ⟨hx', hy', hw', hh'⟩ := hsmall
  simp only [FitsHalf]
  omega

end Rect

/-! ### Painting -/

/-- The rectangle that a call paints. -/
def HostCall.rect? : HostCall → Option Rect
  | fillRect _ rect => some rect
  | _ => none

/-- The color that a call gives to a point of the window, by painting all of it or a rectangle. -/
def HostCall.colorAt? (p q : ℤ) : HostCall → Option Color
  | fill color => some color
  | fillRect color rect => if rect.Contains p q then some color else none
  | _ => none

/-- The color of a point behind some calls: that of the last one which paints it. -/
def colorBehind (p q : ℤ) (calls : List HostCall) : Option Color :=
  (calls.filterMap (HostCall.colorAt? p q)).getLast?

/-- **Rectangles of one color on a ground of another.** -/
theorem colorBehind_fillRects (p q : ℤ) (ground color : Color) (rects : List Rect) :
    colorBehind p q (.fill ground :: rects.map (.fillRect color)) =
      some (if ∃ rect ∈ rects, rect.Contains p q then color else ground) := by
  induction rects using List.reverseRecOn with
  | nil => simp [colorBehind, HostCall.colorAt?]
  | append_singleton rects rect ih =>
    rw [colorBehind] at ih ⊢
    rw [List.map_append, ← List.cons_append, List.filterMap_append, List.getLast?_append, ih]
    by_cases hrect : rect.Contains p q
    · simp [HostCall.colorAt?, hrect]
    · simp [HostCall.colorAt?, hrect, or_and_right, exists_or]

theorem Screen.OfProgram.sides_pos {s : Screen} (hs : s.OfProgram) :
    0 < s.columns ∧ 0 < s.rows := by
  obtain ⟨hwidth, hheight⟩ := hs
  rw [columns, rows]
  omega

namespace Renderer

variable {r : Renderer} {s : Screen} {pixel : ℕ × ℕ}

/-! ### Cells -/

/-- The cell of a pixel of the screen. -/
def cellRect (r : Renderer) (s : Screen) (pixel : ℕ × ℕ) : Rect where
  x := border r.windowWidth s.columns pixel.1
  y := border r.windowHeight s.rows pixel.2
  width := border r.windowWidth s.columns (pixel.1 + 1) - border r.windowWidth s.columns pixel.1
  height := border r.windowHeight s.rows (pixel.2 + 1) - border r.windowHeight s.rows pixel.2

/-- The point of the window is in the cell of a pixel of the screen. -/
structure InCell (r : Renderer) (s : Screen) (p q : ℤ) (pixel : ℕ × ℕ) : Prop where
  column_lt : pixel.1 < s.columns
  row_lt : pixel.2 < s.rows
  inColumn : InShare r.windowWidth s.columns pixel.1 p
  inRow : InShare r.windowHeight s.rows pixel.2 q

theorem contains_cellRect {p q : ℤ} : (r.cellRect s pixel).Contains p q ↔
    InShare r.windowWidth s.columns pixel.1 p ∧ InShare r.windowHeight s.rows pixel.2 q := by
  simp only [Rect.Contains, cellRect, InShare]
  omega

/-- The sides of the window are not below zero, and not too large. -/
structure HasSides (r : Renderer) : Prop where
  width_nonneg : 0 ≤ r.windowWidth
  width_lt : r.windowWidth < 2 ^ 40
  height_nonneg : 0 ≤ r.windowHeight
  height_lt : r.windowHeight < 2 ^ 40

theorem HasSides.inside_cellRect (hr : r.HasSides) (hp : pixel.1 < s.columns)
    (hq : pixel.2 < s.rows) :
    (r.cellRect s pixel).Inside r.windowWidth r.windowHeight where
  x_nonneg := border_nonneg hr.width_nonneg _ _
  y_nonneg := border_nonneg hr.height_nonneg _ _
  width_nonneg := Int.sub_nonneg.2 (border_mono hr.width_nonneg _ (Nat.le_succ _))
  height_nonneg := Int.sub_nonneg.2 (border_mono hr.height_nonneg _ (Nat.le_succ _))
  right_le := by
    rw [cellRect, add_sub_cancel]
    exact border_le hr.width_nonneg hp
  bottom_le := by
    rw [cellRect, add_sub_cancel]
    exact border_le hr.height_nonneg hq

/-- **Cells do not overlap.** -/
theorem HasSides.apart_cellRect (hr : r.HasSides) {pixel' : ℕ × ℕ} (hne : pixel ≠ pixel') :
    (r.cellRect s pixel).Apart (r.cellRect s pixel') := by
  rintro p q ⟨h, h'⟩
  obtain ⟨hcolumn, hrow⟩ := contains_cellRect.1 h
  obtain ⟨hcolumn', hrow'⟩ := contains_cellRect.1 h'
  exact hne (Prod.ext (share_unique hr.width_nonneg hcolumn hcolumn')
    (share_unique hr.height_nonneg hrow hrow'))

/-- **And they leave no gaps**: every point of the window is in the cell of one pixel. -/
theorem HasSides.exists_inCell_iff (hr : r.HasSides) (hcolumns : 0 < s.columns) (hrows : 0 < s.rows)
    {p q : ℤ} (hp : 0 ≤ p) (hp' : p < r.windowWidth) (hq : 0 ≤ q) (hq' : q < r.windowHeight) :
    ∃ pixel, ∀ pixel', r.InCell s p q pixel' ↔ pixel' = pixel := by
  obtain ⟨k, hk, hcolumn⟩ := exists_share hcolumns hp hp'
  obtain ⟨l, hl, hrow⟩ := exists_share hrows hq hq'
  refine ⟨(k, l), fun pixel' ↦ ⟨fun h ↦ ?_, ?_⟩⟩
  · exact Prod.ext (share_unique hr.width_nonneg h.inColumn hcolumn)
      (share_unique hr.height_nonneg h.inRow hrow)
  · rintro rfl
    exact ⟨hk, hl, hcolumn, hrow⟩

/-! ### Drawing -/

/-- A side that is shared out into `2 ^ j` parts has its edges at the borders. -/
theorem exists_edge_eq_border {side d : ℤ} {n j : ℕ} (hside : 0 ≤ side) (hside' : side < 2 ^ 40)
    (hd : d = n) (hn : n = twoPow j) (hj : j ≤ 13) :
    ∃ size, quotient side d = .ok size ∧ ∀ k ≤ n, edge size k = .ok (border side n k) := by
  obtain ⟨m, rfl⟩ := Int.eq_ofNat_of_zero_le hside
  have hm : m ≤ twoPow 40 := by
    have hpow : twoPow 40 = 2 ^ 40 := rfl
    omega
  obtain ⟨size, hsize, hscale⟩ :=
    exists_quotient_scale (hm.trans (twoPow_le (by decide))) (show j ≤ 1074 by omega)
  subst hn hd
  refine ⟨size, hsize, fun k hk ↦ ?_⟩
  rw [edge, border, Int.cast_natCast, hscale k]
  calc k * m ≤ twoPow j * twoPow 40 := Nat.mul_le_mul hk hm
    _ = twoPow (j + 40) := (twoPow_add j 40).symm
    _ ≤ twoPow 53 := twoPow_le (by omega)

theorem drawCells_eq_map {width height : Binary64} {pixels : List (ℕ × ℕ)} {rect : ℕ × ℕ → Rect}
    (hlit : r.host.refusal? r.lit = none)
    (h : ∀ pixel ∈ pixels, r.cell width height pixel.1 pixel.2 = .ok (rect pixel)) :
    r.drawCells width height pixels = ((pixels.map rect).map (.fillRect r.lit), none) := by
  induction pixels with
  | nil => rfl
  | cons pixel rest ih =>
    obtain ⟨hfirst, hrest⟩ := List.forall_mem_cons.1 h
    simp only [drawCells, hfirst, hlit, ih hrest, List.map_cons]

theorem HasSides.inside_of_mem (hr : r.HasSides) (hmem : pixel ∈ s.litPixels) :
    (r.cellRect s pixel).Inside r.windowWidth r.windowHeight := by
  obtain ⟨hp, hq, -⟩ := Screen.mem_litPixels_iff.1 hmem
  exact hr.inside_cellRect hp hq

/-- Of the cell of a lit pixel the host makes a rectangle. -/
theorem HasSides.rect_eq_kept (hr : r.HasSides) (hrects : r.host.MakesRects)
    (hmem : pixel ∈ s.litPixels) :
    r.host.rect (r.cellRect s pixel).x (r.cellRect s pixel).y (r.cellRect s pixel).width
      (r.cellRect s pixel).height = .ok (r.host.kept (r.cellRect s pixel)) := by
  obtain ⟨hx, hy, hwidth, hheight⟩ := (hr.inside_of_mem hmem).fitsWord hr.width_lt hr.height_lt
  obtain ⟨rect, hrect⟩ := hrects.makes hx hy hwidth hheight
  rw [Host.kept_eq hrect, hrect]

/-- **Drawing paints the window dark, and what the host keeps of the cells of the lit pixels
lit.** -/
theorem HasSides.draw_eq (hr : r.HasSides) (hserved : r.Served) (hs : s.OfProgram) :
    r.draw s = (.fill r.dark ::
      (s.litPixels.map fun pixel ↦ r.host.kept (r.cellRect s pixel)).map (.fillRect r.lit),
        none) := by
  obtain ⟨hwidth, hheight⟩ := hs
  obtain ⟨j, hj, hrows⟩ : ∃ j ≤ 13, s.rows = twoPow j := by
    rw [Screen.rows]
    rcases hheight with h | h
    · exact ⟨5, by decide, by rw [h]; rfl⟩
    · exact ⟨6, by decide, by rw [h]; rfl⟩
  have hcolumns : s.columns = twoPow 6 := by
    rw [Screen.columns, hwidth]
    rfl
  obtain ⟨width, hw, hleft⟩ := exists_edge_eq_border hr.width_nonneg hr.width_lt
    (show s.width = s.columns by rw [Screen.columns]; omega) hcolumns (by decide)
  obtain ⟨height, hh, htop⟩ := exists_edge_eq_border hr.height_nonneg hr.height_lt
    (show s.height = s.rows by rw [Screen.rows]; omega) hrows hj
  have hcells : ∀ pixel ∈ s.litPixels,
      r.cell width height pixel.1 pixel.2 = .ok (r.host.kept (r.cellRect s pixel)) := by
    rintro ⟨p, q⟩ hmem
    obtain ⟨hp, hq, -⟩ := Screen.mem_litPixels_iff.1 hmem
    simp only [cell, hleft p hp.le, hleft (p + 1) hp, htop q hq.le, htop (q + 1) hq]
    rw [← hr.rect_eq_kept hserved.rects hmem]
    rfl
  have hsizes : r.sizes s = .ok (width, height) := by
    rw [sizes, hw, hh]
    rfl
  simp only [draw, hserved.clear_eq, hsizes, drawCells_eq_map hserved.lit hcells]
  rfl

/-- The rectangles that are painted by a drawing. -/
def rects (r : Renderer) (s : Screen) : List Rect := (r.draw s).1.filterMap HostCall.rect?

theorem HasSides.rects_eq (hr : r.HasSides) (hserved : r.Served) (hs : s.OfProgram) :
    r.rects s = s.litPixels.map fun pixel ↦ r.host.kept (r.cellRect s pixel) := by
  have hrect : ∀ rect, HostCall.rect? (.fillRect r.lit rect) = some rect := fun _ ↦ rfl
  rw [rects, hr.draw_eq hserved hs, List.filterMap_cons_none rfl, List.filterMap_map]
  simp only [Function.comp_def, hrect, List.filterMap_some]

/-- With the low halves kept, these are the rectangles that are painted. -/
theorem HasSides.rects_eq_halves (hr : r.HasSides) (hserved : r.Served) (hs : s.OfProgram)
    (hhost : r.host.rect = Rect.ofNumbers) :
    r.rects s = s.litPixels.map fun pixel ↦ (r.cellRect s pixel).kept := by
  rw [hr.rects_eq hserved hs]
  refine List.map_congr_left fun pixel hmem ↦ Host.kept_eq ?_
  rw [hhost]
  exact if_pos ((hr.inside_of_mem hmem).fitsWord hr.width_lt hr.height_lt)

/-- Where the cells of the lit pixels are small, they are what is painted. -/
theorem HasSides.rects_eq_cells (hr : r.HasSides) (hserved : r.Served) (hs : s.OfProgram)
    (hsmall : ∀ pixel ∈ s.litPixels, (r.cellRect s pixel).Small) :
    r.rects s = s.litPixels.map (r.cellRect s) := by
  rw [hr.rects_eq hserved hs]
  refine List.map_congr_left fun pixel hmem ↦ Host.kept_eq ?_
  obtain ⟨hx, hy, hwidth, hheight⟩ := (hr.inside_of_mem hmem).fitsHalf (hsmall pixel hmem)
  exact hserved.rects.keeps hx hy hwidth hheight

/-- **And a point in the cell of a lit pixel is lit**, while all others are dark. -/
theorem HasSides.colorBehind_draw (hr : r.HasSides) (hserved : r.Served) (hs : s.OfProgram)
    (hsmall : ∀ pixel ∈ s.litPixels, (r.cellRect s pixel).Small) {p q : ℤ}
    (hcell : ∀ pixel', r.InCell s p q pixel' ↔ pixel' = pixel) :
    colorBehind p q (r.draw s).1 = some (if pixel ∈ s.litPixels then r.lit else r.dark) := by
  have hrects := hr.rects_eq_cells hserved hs hsmall
  rw [hr.rects_eq hserved hs] at hrects
  rw [hr.draw_eq hserved hs, hrects, colorBehind_fillRects]
  have hlit : (∃ rect ∈ s.litPixels.map (r.cellRect s), rect.Contains p q) ↔
      pixel ∈ s.litPixels := by
    constructor
    · rintro ⟨rect, hmem, hcontains⟩
      obtain ⟨pixel', hmem', rfl⟩ := List.mem_map.1 hmem
      obtain ⟨hp, hq, -⟩ := Screen.mem_litPixels_iff.1 hmem'
      obtain ⟨hcolumn, hrow⟩ := contains_cellRect.1 hcontains
      exact (hcell pixel').1 ⟨hp, hq, hcolumn, hrow⟩ ▸ hmem'
    · intro hmem
      obtain ⟨-, -, hcolumn, hrow⟩ := (hcell pixel).2 rfl
      exact ⟨_, List.mem_map_of_mem hmem, contains_cellRect.2 ⟨hcolumn, hrow⟩⟩
  simp only [hlit]

/-- **The cells of the lit pixels tile their part of the window**, in a window of any size below
`2 ^ 40`, on a host that paints the colors and makes rectangles of words. Drawing ends, and paints
for each lit pixel what the host keeps of its cell; where a host keeps the low halves of numbers,
it is these. It is the cell itself if its numbers are below `2 ^ 31`, as they are in every window
with sides below `2 ^ 31`. Then the painted rectangles do not overlap, have no size below zero and
lie in the window, and each point of the window is in the cell of exactly one pixel of the screen
and has the color of that pixel. -/
theorem cells_tile_window (hr : r.HasSides) (hserved : r.Served) (hs : s.OfProgram) :
    (r.draw s).2 = none ∧
      r.rects s = s.litPixels.map (fun pixel ↦ r.host.kept (r.cellRect s pixel)) ∧
      (r.host.rect = Rect.ofNumbers →
        r.rects s = s.litPixels.map (fun pixel ↦ (r.cellRect s pixel).kept)) ∧
      (r.windowWidth < 2 ^ 31 → r.windowHeight < 2 ^ 31 →
        ∀ pixel ∈ s.litPixels, (r.cellRect s pixel).Small) ∧
      ((∀ pixel ∈ s.litPixels, (r.cellRect s pixel).Small) →
        (r.rects s).Pairwise Rect.Apart ∧
          (∀ rect ∈ r.rects s, rect.Inside r.windowWidth r.windowHeight) ∧
          ∀ p q : ℤ, 0 ≤ p → p < r.windowWidth → 0 ≤ q → q < r.windowHeight →
            ∃ pixel, (∀ pixel', r.InCell s p q pixel' ↔ pixel' = pixel) ∧
              colorBehind p q (r.draw s).1 =
                some (if pixel ∈ s.litPixels then r.lit else r.dark)) := by
  refine ⟨by rw [hr.draw_eq hserved hs], hr.rects_eq hserved hs, hr.rects_eq_halves hserved hs,
    fun hwidth hheight pixel hmem ↦ (hr.inside_of_mem hmem).small hwidth hheight,
    fun hsmall ↦ ⟨?_, ?_, ?_⟩⟩
  · rw [hr.rects_eq_cells hserved hs hsmall, List.pairwise_map]
    exact s.nodup_litPixels.imp fun hne ↦ hr.apart_cellRect hne
  · rw [hr.rects_eq_cells hserved hs hsmall]
    exact List.forall_mem_map.2 fun pixel hmem ↦ hr.inside_of_mem hmem
  · intro p q hp hp' hq hq'
    obtain ⟨hcolumns, hrows⟩ := hs.sides_pos
    obtain ⟨pixel, hcell⟩ := hr.exists_inCell_iff hcolumns hrows hp hp' hq hq'
    exact ⟨pixel, hcell, hr.colorBehind_draw hserved hs hsmall hcell⟩

/-- A screen with the pixel in its upper right corner lit. -/
def cornered : Screen :=
  ⟨64, 32, Array.ofFn fun k : Fin 2048 ↦ decide (k.val = 63), Array.size_ofFn⟩

/-- No other is. -/
theorem litPixels_cornered : cornered.litPixels = [(63, 0)] := by
  have hmem : ∀ pixel, pixel ∈ cornered.litPixels ↔ pixel ∈ [(63, 0)] := by
    rintro ⟨p, q⟩
    have hcells : cornered.cells = Array.ofFn fun k : Fin 2048 ↦ decide (k.val = 63) := by
      rw [cornered]
    have hcolumns : cornered.columns = 64 := by decide
    have hget : cornered.get p q = decide (q * 64 + p = 63) := by
      rw [Screen.get, hcells, hcolumns, Array.getD_eq_getD_getElem?, Array.getElem?_ofFn]
      split
      · rfl
      · exact (decide_eq_false (by omega)).symm
    rw [Screen.mem_litPixels_iff, hget, decide_eq_true_iff, List.mem_singleton, Prod.mk.injEq]
    show p < 64 ∧ q < 32 ∧ _ ↔ _
    omega
  exact List.perm_singleton.1
    ((List.perm_ext_iff_of_nodup (Screen.nodup_litPixels _) (List.nodup_singleton _)).2 hmem)

/-- In a window of 100 by 50 points its cell has two of either, and the corner of the window is
lit. -/
theorem cells_tile_window_cornered :
    let r : Renderer := { windowWidth := 100, windowHeight := 50 }
    r.HasSides ∧ cornered.OfProgram ∧ r.rects cornered = [⟨98, 0, 2, 2⟩] ∧
      (r.rects cornered).Pairwise Rect.Apart ∧
      colorBehind 99 1 (r.draw cornered).1 = some .white := by
  intro r
  have hr : r.HasSides := ⟨by decide, by decide, by decide, by decide⟩
  have hs : cornered.OfProgram := ⟨rfl, Or.inl rfl⟩
  have hserved : r.Served := served_of_lenient rfl
  obtain ⟨-, -, hrects, hsmall, htile⟩ := cells_tile_window hr hserved hs
  obtain ⟨hapart, -, hcolor⟩ := htile (hsmall (by decide) (by decide))
  obtain ⟨pixel, hcell, hcolor⟩ := hcolor 99 1 (by decide) (by decide) (by decide) (by decide)
  obtain rfl : (63, 0) = pixel :=
    (hcell _).1 ⟨by decide, by decide, by decide +kernel, by decide +kernel⟩
  refine ⟨hr, hs, ?_, hapart, ?_⟩
  · rw [hrects rfl, litPixels_cornered]
    decide +kernel
  · rw [hcolor, litPixels_cornered]
    rfl

/-- **A cell that begins at `2 ^ 31` is painted elsewhere**: the host reads the number with a sign.
So the rectangle lies left of the window, and the point where the cell begins stays dark. -/
theorem cell_misplaced :
    let r : Renderer := { windowWidth := 2181570690, windowHeight := 32 }
    r.HasSides ∧ cornered.OfProgram ∧ (63, 0) ∈ cornered.litPixels ∧
      r.rects cornered = [⟨-2147483648, 0, 34087042, 1⟩] ∧
      ¬ (∀ rect ∈ r.rects cornered, rect.Inside r.windowWidth r.windowHeight) ∧
      r.InCell cornered 2147483648 0 (63, 0) ∧
      colorBehind 2147483648 0 (r.draw cornered).1 = some r.dark ∧ r.dark ≠ r.lit := by
  intro r
  have hr : r.HasSides := ⟨by decide, by decide, by decide, by decide⟩
  have hs : cornered.OfProgram := ⟨rfl, Or.inl rfl⟩
  have hserved : r.Served := served_of_lenient rfl
  have hrects : r.rects cornered = [⟨-2147483648, 0, 34087042, 1⟩] := by
    rw [hr.rects_eq_halves hserved hs rfl, litPixels_cornered]
    decide +kernel
  refine ⟨hr, hs, ?_, hrects, ?_, ⟨by decide, by decide, by decide +kernel, by decide +kernel⟩, ?_,
    by decide⟩
  · rw [litPixels_cornered]
    exact List.mem_singleton_self _
  · rw [hrects]
    exact fun h ↦ absurd (List.forall_mem_singleton.1 h).x_nonneg (by decide)
  · rw [hr.draw_eq hserved hs, litPixels_cornered]
    decide +kernel

end Renderer

end ChipEight
