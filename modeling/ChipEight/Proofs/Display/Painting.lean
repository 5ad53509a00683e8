import ChipEight.Display.Renderer
import ChipEight.Proofs.Number.Bounds
import ChipEight.Proofs.Screen.LitPixels
import Mathlib.Data.List.Basic

/-!
# Painting

Drawing ends in an error where a side of the screen is zero, where the numbers of a rectangle are
too large for the host, or where the host refuses a color. **Only the last can happen to the screen
of a program in a window of the host**, and where the renderer is `Served` nothing does
(`draw_eq_ok`): the sides of the screen are powers of two, the sides of the window are small against
what the host counts in words, and a pixel's edges lie within the window.

Whatever is drawn, the calls only paint (`HostCall.paints`): they show nothing and wait for
nothing.
-/

namespace ChipEight

/-- The call changes what will be seen, and nothing else. -/
def HostCall.paints : HostCall → Bool
  | .fill _ => true
  | .fillRect .. => true
  | .renderLine .. => true
  | .placeLine .. => true
  | _ => false

/-- A screen as programs have it: of the standard size, or of the high resolution. -/
def Screen.OfProgram (s : Screen) : Prop := s.width = 64 ∧ (s.height = 32 ∨ s.height = 64)

namespace Renderer

variable {r : Renderer}

/-- The host makes the rectangles that are asked of it and paints both colors. -/
structure Served (r : Renderer) : Prop where
  rects : r.host.MakesRects
  lit : r.host.refusal? r.lit = none
  dark : r.host.refusal? r.dark = none

theorem served_of_lenient (h : r.host = .lenient) : r.Served where
  rects := h ▸ Host.makesRects_lenient
  lit := h ▸ rfl
  dark := h ▸ rfl

/-- The renderer is served, and the sides of its window are at most `2 ^ 61`. Those of a window of
the host are far smaller; they are numbers of 32 bits. -/
structure HasWindow (r : Renderer) : Prop where
  width_le : r.windowWidth.natAbs ≤ twoPow 61
  height_le : r.windowHeight.natAbs ≤ twoPow 61
  served : r.Served

/-! ### Drawing succeeds -/

/-- Of `2 ^ j` cells that share a window, every edge lies within the window's size. -/
theorem exists_edge_eq {size : Binary64} {k j m : Nat} (h : size.Within (k + 1074))
    (hsum : k + j = 61) (hm : m ≤ twoPow j) :
    ∃ z, edge size m = .ok z ∧ z.natAbs ≤ twoPow 61 := by
  have hscaled := h.scale (j := j) (by omega) (show (m : Int).natAbs ≤ twoPow j from hm)
  rw [show k + 1074 + j = 61 + 1074 by omega] at hscaled
  exact hscaled.nearestInt

theorem fitsWord_of_le {z : Int} (h : z.natAbs ≤ twoPow 62) : FitsWord z := by
  have hbound : twoPow 62 = 4611686018427387904 := rfl
  rw [FitsWord]
  omega

theorem natAbs_sub_le {a b : Int} (ha : a.natAbs ≤ twoPow 61) (hb : b.natAbs ≤ twoPow 61) :
    (a - b).natAbs ≤ twoPow 62 := by
  have hdouble : twoPow 62 = 2 * twoPow 61 := twoPow_succ 61
  omega

/-- Every cell of a grid of `2 ^ i` by `2 ^ j` has a rectangle. -/
theorem exists_cell_eq (hrects : r.host.MakesRects) {width height : Binary64} {k l i j p q : Nat}
    (hwidth : width.Within (k + 1074)) (hheight : height.Within (l + 1074)) (hi : k + i = 61)
    (hj : l + j = 61) (hp : p < twoPow i) (hq : q < twoPow j) :
    ∃ rect, r.cell width height p q = .ok rect := by
  obtain ⟨left, hleft, hleft'⟩ := exists_edge_eq hwidth hi (Nat.le_of_lt hp)
  obtain ⟨top, htop, htop'⟩ := exists_edge_eq hheight hj (Nat.le_of_lt hq)
  obtain ⟨right, hright, hright'⟩ := exists_edge_eq hwidth hi (Nat.succ_le_of_lt hp)
  obtain ⟨bottom, hbottom, hbottom'⟩ := exists_edge_eq hheight hj (Nat.succ_le_of_lt hq)
  have hsmall : twoPow 61 ≤ twoPow 62 := twoPow_le (by decide)
  obtain ⟨rect, hrect⟩ := hrects.makes (fitsWord_of_le (Nat.le_trans hleft' hsmall))
    (fitsWord_of_le (Nat.le_trans htop' hsmall)) (fitsWord_of_le (natAbs_sub_le hright' hleft'))
    (fitsWord_of_le (natAbs_sub_le hbottom' htop'))
  simp only [cell, hleft, htop, hright, hbottom]
  exact ⟨rect, hrect⟩

theorem drawCells_eq_ok (hlit : r.host.refusal? r.lit = none) {width height : Binary64}
    {pixels : List (Nat × Nat)}
    (h : ∀ p q, (p, q) ∈ pixels → ∃ rect, r.cell width height p q = .ok rect) :
    (r.drawCells width height pixels).2 = none := by
  induction pixels with
  | nil => rfl
  | cons pixel rest ih =>
    obtain ⟨p, q⟩ := pixel
    obtain ⟨rect, hrect⟩ := h p q List.mem_cons_self
    simp only [drawCells, hrect, hlit]
    exact ih fun p q hmem ↦ h p q (List.mem_cons_of_mem _ hmem)

theorem Served.clear_eq (hr : r.Served) : r.clear = ([.fill r.dark], none) := by
  rw [clear, hr.dark]

/-- **A program's screen can be drawn into any window.** -/
theorem draw_eq_ok (hr : r.HasWindow) {s : Screen} (hs : s.OfProgram) : (r.draw s).2 = none := by
  obtain ⟨hwidth, hheight⟩ := hs
  obtain ⟨width, hw, hw'⟩ := exists_quotient_eq (k := 55) (j := 6) (by decide)
    (show s.width.natAbs = twoPow 6 by rw [hwidth]; rfl) hr.width_le
  obtain ⟨l, j, hsum, hrows⟩ : ∃ l j, l + j = 61 ∧ s.height.natAbs = twoPow j := by
    rcases hheight with h | h
    · exact ⟨56, 5, rfl, by rw [h]; rfl⟩
    · exact ⟨55, 6, rfl, by rw [h]; rfl⟩
  obtain ⟨height, hh, hh'⟩ := exists_quotient_eq (n := r.windowHeight) (k := l) (by omega) hrows
    (hsum ▸ hr.height_le)
  have hcells : (r.drawCells width height s.litPixels).2 = none := by
    refine drawCells_eq_ok hr.served.lit fun p q hmem ↦ ?_
    obtain ⟨hp, hq, -⟩ := Screen.mem_litPixels_iff.1 hmem
    have hp' : p < twoPow 6 := by
      rw [Screen.columns, hwidth] at hp
      exact hp
    have hq' : q < twoPow j := by
      rw [Screen.rows] at hq
      omega
    exact exists_cell_eq hr.served.rects hw' hh' rfl hsum hp' hq'
  have hsizes : r.sizes s = .ok (width, height) := by
    rw [sizes, hw, hh]
    rfl
  simp only [draw, hr.served.clear_eq, hsizes]
  exact hcells

/-! ### Drawing only paints -/

theorem paints_drawCells (width height : Binary64) (pixels : List (Nat × Nat)) :
    ∀ call ∈ (r.drawCells width height pixels).1, call.paints = true := by
  induction pixels with
  | nil => exact fun call hcall ↦ nomatch hcall
  | cons pixel rest ih =>
    obtain ⟨p, q⟩ := pixel
    rw [drawCells]
    split
    · exact fun call hcall ↦ nomatch hcall
    · split
      · exact fun call hcall ↦ nomatch hcall
      · exact List.forall_mem_cons.2 ⟨rfl, ih⟩

theorem paints_clear (r : Renderer) : ∀ call ∈ r.clear.1, call.paints = true := by
  rw [clear]
  split
  · exact fun call hcall ↦ nomatch hcall
  · exact List.forall_mem_singleton.2 rfl

theorem paints_draw (r : Renderer) (s : Screen) : ∀ call ∈ (r.draw s).1, call.paints = true := by
  have hclear := r.paints_clear
  rw [draw]
  split
  · next heq =>
    rw [heq] at hclear
    exact hclear
  · next heq =>
    rw [heq] at hclear
    split
    · exact hclear
    · exact List.forall_mem_append.2 ⟨hclear, paints_drawCells _ _ _⟩

theorem paints_drawLines (lineHeight y : Int) (lines : List String) :
    ∀ call ∈ drawLines lineHeight y lines, call.paints = true := by
  induction lines generalizing y with
  | nil => exact fun call hcall ↦ nomatch hcall
  | cons line rest ih => exact List.forall_mem_cons.2 ⟨rfl, List.forall_mem_cons.2 ⟨rfl, ih _⟩⟩

theorem paints_drawText (r : Renderer) (text : String) :
    ∀ call ∈ r.drawText text, call.paints = true := by
  rw [drawText]
  split
  · exact fun call hcall ↦ nomatch hcall
  · exact paints_drawLines _ _ _

end Renderer

end ChipEight
