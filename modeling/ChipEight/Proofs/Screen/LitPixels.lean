import ChipEight.Proofs.Screen.Sprite
import Mathlib.Algebra.Ring.Parity
import Mathlib.Data.List.Induction

/-!
# A screen as the set of its lit pixels

The lit pixels of a screen are listed **each once, row by row and from left to right**
(`pairwise_litPixels`), and the list tells the whole screen. What is in it is settled by the history
of the screen alone: a pixel is lit if an odd number of the points that were plotted since the
screen was last dark has fallen on it.

`Shows` is this as an invariant. One change keeps it (`Shows.change`): a plot puts a point in front
of the points that count, and everything else begins with none. `lights_oddly_plotted` says what a
whole history comes to, of whatever points and through changes of the size.
-/

namespace ChipEight.Screen

variable {s : Screen} {points : List (Int × Int)} {sides : Int × Int}

/-! ### The list -/

theorem mem_litPixels_iff {p q : Nat} :
    (p, q) ∈ s.litPixels ↔ p < s.columns ∧ q < s.rows ∧ s.get p q = true := by
  simp only [litPixels, List.mem_flatMap, List.mem_map, List.mem_filter, List.mem_range,
    Prod.mk.injEq]
  constructor
  · rintro ⟨q', hq, p', ⟨hp, hlit⟩, rfl, rfl⟩
    exact ⟨hp, hq, hlit⟩
  · rintro ⟨hp, hq, hlit⟩
    exact ⟨q, hq, p, ⟨hp, hlit⟩, rfl, rfl⟩

/-- The pixel is in a row above, or further left in the same row. -/
def Before (p q : Nat × Nat) : Prop := p.2 < q.2 ∨ p.2 = q.2 ∧ p.1 < q.1

/-- **The lit pixels are listed in their order.** -/
theorem pairwise_litPixels (s : Screen) : s.litPixels.Pairwise Before := by
  rw [litPixels, List.pairwise_flatMap]
  constructor
  · intro q _
    rw [List.pairwise_map]
    exact (List.pairwise_lt_range.filter _).imp fun hlt ↦ Or.inr ⟨rfl, hlt⟩
  · refine List.pairwise_lt_range.imp fun {q q'} hlt a ha b hb ↦ ?_
    obtain ⟨p, -, rfl⟩ := List.mem_map.1 ha
    obtain ⟨p', -, rfl⟩ := List.mem_map.1 hb
    exact Or.inl hlt

/-- So none of them is listed twice. -/
theorem nodup_litPixels (s : Screen) : s.litPixels.Nodup := by
  refine s.pairwise_litPixels.imp fun {p q} hbefore heq ↦ ?_
  rw [heq] at hbefore
  rcases hbefore with hlt | ⟨-, hlt⟩
  · exact Nat.lt_irrefl _ hlt
  · exact Nat.lt_irrefl _ hlt

theorem HasPixels.row_lt (h : s.HasPixels) (p : Int × Int) : (p.2 % s.height).toNat < s.rows := by
  have hlt := Int.emod_lt_of_pos p.2 h.height_pos
  have hpos := h.height_pos
  rw [rows]
  omega

/-- **Asking for a point is looking for its pixel in the list.** -/
theorem isLit_eq_mem_litPixels (h : s.HasPixels) (x y : Int) :
    s.isLit x y = .ok (decide (s.pixel (x, y) ∈ s.litPixels)) := by
  have hmem : s.pixel (x, y) ∈ s.litPixels ↔ s.lit (x, y) = true := by
    rw [pixel, mem_litPixels_iff]
    exact ⟨fun hin ↦ hin.2.2, fun hlit ↦ ⟨h.column_lt _, h.row_lt _, hlit⟩⟩
  rw [isLit_eq_lit h, Except.ok.injEq, Bool.eq_iff_iff, decide_eq_true_iff, hmem]

/-! ### Changes -/

/-- A change of a screen. -/
inductive Change where
  | plot (x y : Int)
  | clear
  | resize (width height : Int)

namespace Change

/-- The point that is plotted, if that is the change. -/
def point? : Change → Option (Int × Int)
  | plot x y => some (x, y)
  | _ => none

/-- The new sides, if the change gives others. -/
def sides? : Change → Option (Int × Int)
  | resize width height => some (width, height)
  | _ => none

/-- The points that count behind a change, of which those before it are given. -/
def counted (points : List (Int × Int)) : Change → List (Int × Int)
  | plot x y => (x, y) :: points
  | _ => []

/-- The new sides, if there are any, are above zero. -/
def GivesPixels : Change → Prop
  | resize width height => 0 < width ∧ 0 < height
  | _ => True

instance : DecidablePred GivesPixels
  | plot .. => .isTrue trivial
  | clear => .isTrue trivial
  | resize .. => inferInstanceAs (Decidable (_ ∧ _))

end Change

/-- The screen behind a change. -/
def change (s : Screen) : Change → Except HostError Screen
  | .plot x y => s.plot x y
  | .clear => .ok s.clear
  | .resize width height => .ok (blank width height)

/-- The screen behind a list of changes, if none of them fails. -/
def changeAll (s : Screen) (changes : List Change) : Except HostError Screen :=
  changes.foldlM change s

/-- The sides behind a list of changes. -/
def sidesBehind (sides : Int × Int) (changes : List Change) : Int × Int :=
  (changes.reverse.findSome? Change.sides?).getD sides

/-- The points that were plotted since the last change that was no plot, the last one first. -/
def lastPlotted (changes : List Change) : List (Int × Int) :=
  (changes.reverse.takeWhile (·.point?.isSome)).filterMap Change.point?

/-- The point falls on the pixel: its coordinates, divided by the sides and rounded down, leave
those of the pixel. -/
def FallsOn (sides : Int × Int) (pixel : Nat × Nat) (point : Int × Int) : Prop :=
  point.1.fmod sides.1 = pixel.1 ∧ point.2.fmod sides.2 = pixel.2

instance (sides : Int × Int) (pixel : Nat × Nat) (point : Int × Int) :
    Decidable (FallsOn sides pixel point) :=
  inferInstanceAs (Decidable (_ ∧ _))

theorem sidesBehind_concat (sides : Int × Int) (changes : List Change) (change : Change) :
    sidesBehind sides (changes ++ [change]) = change.sides?.getD (sidesBehind sides changes) := by
  rw [sidesBehind, List.reverse_concat, List.findSome?_cons]
  cases change <;> rfl

theorem lastPlotted_concat (changes : List Change) (change : Change) :
    lastPlotted (changes ++ [change]) = change.counted (lastPlotted changes) := by
  rw [lastPlotted, List.reverse_concat, List.takeWhile_cons]
  cases change <;> rfl

/-! ### One change -/

/-- The screen has the sides, and is lit where an odd number of the points has fallen. -/
structure Shows (s : Screen) (sides : Int × Int) (points : List (Int × Int)) : Prop where
  hasPixels : s.HasPixels
  sides_eq : (s.width, s.height) = sides
  lit_eq : ∀ p, s.lit p = s.oddHits points p

/-- A dark screen shows no points. -/
theorem shows_blank {width height : Int} (hw : 0 < width) (hh : 0 < height) :
    (blank width height).Shows (width, height) [] := by
  refine ⟨⟨hw, hh⟩, rfl, fun p ↦ ?_⟩
  have hdark : (blank width height).lit p = false := by
    simp only [lit, blank, Array.getD_eq_getD_getElem?, Array.getElem?_replicate]
    split <;> rfl
  rw [hdark]
  rfl

/-- **A plot counts a point more, and every other change counts anew.** -/
theorem Shows.change (h : s.Shows sides points) (change : Change) (hgives : change.GivesPixels) :
    ∃ t, s.change change = .ok t ∧
      t.Shows (change.sides?.getD sides) (change.counted points) := by
  cases change with
  | plot x y =>
    obtain ⟨t, hplot, hw, hh, hlit⟩ := exists_plot_eq h.hasPixels x y
    refine ⟨t, hplot, h.hasPixels.of_sides hw hh, ?_, fun p ↦ ?_⟩
    · rw [hw, hh]
      exact h.sides_eq
    · rw [Change.counted, oddHits_congr hw hh, oddHits_cons, hlit, h.lit_eq, Bool.xor_comm]
  | clear =>
    refine ⟨s.clear, rfl, ?_⟩
    rw [← h.sides_eq]
    exact shows_blank h.hasPixels.width_pos h.hasPixels.height_pos
  | resize width height =>
    obtain ⟨hw, hh⟩ := hgives
    exact ⟨_, rfl, shows_blank hw hh⟩

/-! ### Histories -/

/-- By induction on the changes, from the last one on. -/
theorem exists_changeAll_eq (h : s.Shows sides []) {changes : List Change}
    (hgives : ∀ change ∈ changes, change.GivesPixels) :
    ∃ t, s.changeAll changes = .ok t ∧
      t.Shows (sidesBehind sides changes) (lastPlotted changes) := by
  induction changes using List.reverseRecOn with
  | nil => exact ⟨s, rfl, h⟩
  | append_singleton changes change ih =>
    obtain ⟨hbefore, hlast⟩ := List.forall_mem_append.1 hgives
    obtain ⟨t, hall, hshows⟩ := ih hbefore
    obtain ⟨u, hchange, hshows'⟩ := hshows.change change (hlast _ (List.mem_singleton_self _))
    refine ⟨u, ?_, ?_⟩
    · rw [changeAll, List.foldlM_append, ← changeAll, hall]
      show [change].foldlM Screen.change t = _
      rw [List.foldlM_cons, hchange]
      rfl
    · rw [sidesBehind_concat, lastPlotted_concat]
      exact hshows'

/-- **A pixel is lit if an odd number of the points falls on it.** -/
theorem Shows.lit_iff (h : s.Shows sides points) {p q : Nat} (hp : p < s.columns)
    (hq : q < s.rows) :
    s.get p q = true ↔ Odd (points.countP fun point ↦ FallsOn sides (p, q) point) := by
  have hcolumn : (p : Int) % s.width = p := by
    have := h.hasPixels.columns_eq
    exact Int.emod_eq_of_lt (Int.natCast_nonneg p) (by omega)
  have hrow : (q : Int) % s.height = q := by
    have := h.hasPixels.rows_eq
    exact Int.emod_eq_of_lt (Int.natCast_nonneg q) (by omega)
  have hsame : (fun point ↦ decide (s.SamePixel point (p, q))) =
      fun point ↦ decide (FallsOn sides (p, q) point) := funext fun point ↦ by
    refine decide_eq_decide.2 ?_
    rw [SamePixel, FallsOn, ← h.sides_eq, hcolumn, hrow,
      Int.fmod_eq_emod_of_nonneg _ h.hasPixels.width_pos.le,
      Int.fmod_eq_emod_of_nonneg _ h.hasPixels.height_pos.le]
  rw [← lit_of_lt h.hasPixels hp hq, h.lit_eq, oddHits, decide_eq_true_eq, hits, hsame,
    Nat.odd_iff]

/-- **What is lit is what was plotted an odd number of times.** A dark screen with sides above zero
is changed any number of times: points with any coordinates are plotted, and it is darkened and
given other sides above zero. No change fails. The list of its lit pixels is in order, and so has
none of them twice; it holds the pixels of the screen on which an odd number of the points has
fallen that were plotted since the screen was last darkened or given its sides; and a point is lit
exactly if its pixel is in the list. -/
theorem lights_oddly_plotted {width height : Int} (hw : 0 < width) (hh : 0 < height)
    {changes : List Change} (hgives : ∀ change ∈ changes, change.GivesPixels) :
    ∃ s, (blank width height).changeAll changes = .ok s ∧
      (s.width, s.height) = sidesBehind (width, height) changes ∧
      s.litPixels.Pairwise Before ∧ s.litPixels.Nodup ∧
      (∀ p q : Nat, (p, q) ∈ s.litPixels ↔ (p : Int) < s.width ∧ (q : Int) < s.height ∧
        Odd ((lastPlotted changes).countP fun point ↦
          FallsOn (s.width, s.height) (p, q) point)) ∧
      ∀ x y, s.isLit x y =
        .ok (decide (((x.fmod s.width).toNat, (y.fmod s.height).toNat) ∈ s.litPixels)) := by
  obtain ⟨s, hall, hshows⟩ := exists_changeAll_eq (shows_blank hw hh) hgives
  have hpixels := hshows.hasPixels
  refine ⟨s, hall, hshows.sides_eq, s.pairwise_litPixels, s.nodup_litPixels, fun p q ↦ ?_,
    fun x y ↦ ?_⟩
  · rw [mem_litPixels_iff, hshows.sides_eq, ← hpixels.columns_eq, ← hpixels.rows_eq, Int.ofNat_lt,
      Int.ofNat_lt]
    exact and_congr_right fun hp ↦ and_congr_right fun hq ↦ hshows.lit_iff hp hq
  · rw [isLit_eq_mem_litPixels hpixels, pixel, Int.fmod_eq_emod_of_nonneg _ hpixels.width_pos.le,
      Int.fmod_eq_emod_of_nonneg _ hpixels.height_pos.le]

/-- A screen is drawn on, made smaller and drawn on again, at points outside it. -/
def redrawn : List Change :=
  [.plot 1 1, .resize 3 2, .plot (-1) (-1), .plot 4 0, .plot 1 2, .plot 2 3, .plot 7 (-2)]

/-- Of the five points that count, three fall on the middle pixel of the upper row and two on the
right one of the lower. -/
theorem lights_oddly_plotted_redrawn :
    ∃ s, (blank 64 32).changeAll redrawn = .ok s ∧ (s.width, s.height) = (3, 2) ∧
      (1, 0) ∈ s.litPixels ∧ (2, 1) ∉ s.litPixels ∧ s.isLit (-2) 4 = .ok true := by
  have hwidth : (0 : Int) < 64 := by decide
  have hheight : (0 : Int) < 32 := by decide
  have hgives : ∀ change ∈ redrawn, change.GivesPixels := by decide
  obtain ⟨s, hall, hsides, -, -, hmem, hasked⟩ := lights_oddly_plotted hwidth hheight hgives
  obtain ⟨hwidth, hheight⟩ : s.width = 3 ∧ s.height = 2 := Prod.mk.inj hsides
  rw [hwidth, hheight] at hmem hasked
  have hlit : (1, 0) ∈ s.litPixels := (hmem 1 0).2 (by decide)
  refine ⟨s, hall, hsides, hlit, fun h ↦ absurd ((hmem 2 1).1 h) (by decide), ?_⟩
  rw [hasked]
  exact congrArg Except.ok (decide_eq_true hlit)

end ChipEight.Screen
