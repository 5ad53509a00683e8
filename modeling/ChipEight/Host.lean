import ChipEight.HostCall

/-!
# The host

What becomes of the numbers and colors that a host is given is **for the host to say and not for
the program**: how large the window is that it opens, what it keeps of a rectangle, and which colors
it paints. So a host is a value here, and whatever opens a window or draws takes one.

All that is relied on in a host is `Host.MakesRects`. It has no part for windows and colors: a host
may refuse any of them, and then what was asked for ends with the host's error.
-/

namespace ChipEight

/-- What a host makes of what it is given. -/
structure Host where
  /-- The rectangle of four numbers: its upper left corner, and its size. -/
  rect : Int → Int → Int → Int → Except HostError Rect
  /-- The sides of the window that is opened, where these are asked for. -/
  window : Int → Int → Except HostError (Int × Int) := fun width height ↦ .ok (width, height)
  /-- Why a color cannot be painted, if it cannot. -/
  refusal? : Color → Option HostError := fun _ ↦ none

namespace Host

/-- The host that opens every window as it is asked for and paints every color. Of a rectangle it
keeps the low halves of the numbers. -/
def lenient : Host where
  rect := Rect.ofNumbers

/-- The host makes a rectangle of any numbers that fit a word, and **numbers of 32 bits are kept as
they are**. -/
structure MakesRects (host : Host) : Prop where
  /-- There is a rectangle, whatever becomes of the numbers. -/
  makes : ∀ {x y width height}, FitsWord x → FitsWord y → FitsWord width → FitsWord height →
    ∃ rect, host.rect x y width height = .ok rect
  /-- Small numbers become nothing else. -/
  keeps : ∀ {x y width height}, FitsHalf x → FitsHalf y → FitsHalf width → FitsHalf height →
    host.rect x y width height = .ok ⟨x, y, width, height⟩

theorem makesRects_lenient : lenient.MakesRects where
  makes hx hy hwidth hheight := ⟨_, if_pos ⟨hx, hy, hwidth, hheight⟩⟩
  keeps hx hy hwidth hheight := by
    have hfits := And.intro hx.fitsWord
      (And.intro hy.fitsWord (And.intro hwidth.fitsWord hheight.fitsWord))
    refine (if_pos hfits).trans ?_
    rw [lowHalf_eq_self hx, lowHalf_eq_self hy, lowHalf_eq_self hwidth, lowHalf_eq_self hheight]

/-- What the host keeps of a rectangle that is asked for, where it makes one at all. -/
def kept (host : Host) (asked : Rect) : Rect :=
  (host.rect asked.x asked.y asked.width asked.height).toOption.getD asked

theorem kept_eq {host : Host} {asked rect : Rect}
    (h : host.rect asked.x asked.y asked.width asked.height = .ok rect) :
    host.kept asked = rect := by
  rw [kept, h]
  rfl

end Host

end ChipEight
