import ChipEight.Host
import ChipEight.Screen
import ChipEight.Text.Split

/-!
# Drawing the screen

A screen is drawn into a window of any size by painting the whole window dark and then one rectangle
for every lit pixel. The edge between two columns lies at a **rounded multiple of the exact width of
a column**, not at a multiple of a rounded width: neighbours share their edges, so the pixels fill
the window without gaps or overlaps, and their sizes differ by at most one where the division leaves
a rest.

The width of a column is a binary64 number, and so is each edge before it is rounded. **What becomes
of the four numbers of a rectangle is up to the host**, which may keep others than it was asked for,
or none at all; and it may refuse to paint a color.
-/

namespace ChipEight

/-- How a screen is drawn. -/
structure Renderer where
  host : Host := .lenient
  windowWidth : Int
  windowHeight : Int
  lit : Color := .white
  dark : Color := .black
  /-- The height of a line of text, if there is a font. -/
  lineHeight : Option Int := none

namespace Renderer

/-- Where the `k`-th cell of that size begins. -/
def edge (size : Binary64) (k : Nat) : Except HostError Int := nearestInt (size.scale k)

/-- The rectangle of one pixel, as the host makes it. -/
def cell (r : Renderer) (width height : Binary64) (p q : Nat) : Except HostError Rect := do
  let left ← edge width p
  let top ← edge height q
  let right ← edge width (p + 1)
  let bottom ← edge height (q + 1)
  r.host.rect left top (right - left) (bottom - top)

/-- Paints pixels one after another, up to the first that cannot be placed or painted. -/
def drawCells (r : Renderer) (width height : Binary64) :
    List (Nat × Nat) → List HostCall × Option HostError
  | [] => ([], none)
  | (p, q) :: rest =>
    match r.cell width height p q with
    | .error e => ([], some e)
    | .ok rect =>
      match r.host.refusal? r.lit with
      | some e => ([], some e)
      | none =>
        let (calls, e) := r.drawCells width height rest
        (.fillRect r.lit rect :: calls, e)

/-- Paints the whole window dark. -/
def clear (r : Renderer) : List HostCall × Option HostError :=
  match r.host.refusal? r.dark with
  | some e => ([], some e)
  | none => ([.fill r.dark], none)

/-- The sizes of a column and of a row. -/
def sizes (r : Renderer) (s : Screen) : Except HostError (Binary64 × Binary64) := do
  let width ← quotient r.windowWidth s.width
  let height ← quotient r.windowHeight s.height
  return (width, height)

/-- Draws a screen. What was painted before an error stays painted. -/
def draw (r : Renderer) (s : Screen) : List HostCall × Option HostError :=
  match r.clear with
  | (ground, some e) => (ground, some e)
  | (ground, none) =>
    match r.sizes s with
    | .error e => (ground, some e)
    | .ok (width, height) =>
      let (calls, e) := r.drawCells width height s.litPixels
      (ground ++ calls, e)

/-- Writes lines of text below each other, starting at height `y`. -/
def drawLines (lineHeight y : Int) : List String → List HostCall
  | [] => []
  | line :: rest =>
    .renderLine line .pureRed :: .placeLine line 0 y :: drawLines lineHeight (y + lineHeight) rest

/-- Writes a text over the window, if there is a font. -/
def drawText (r : Renderer) (text : String) : List HostCall :=
  match r.lineHeight with
  | none => []
  | some lineHeight => drawLines lineHeight 0 (linesOf text)

end Renderer

end ChipEight
