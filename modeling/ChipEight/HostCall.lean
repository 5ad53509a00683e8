import ChipEight.Sound.SquareWave

/-!
# Calls of the host

What a running console asks its host to do: open a window, paint it, keep the pace, make a sound.
The calls are recorded as values, in the order in which they are made; **nothing here carries them
out**.
-/

namespace ChipEight

/-- A color by its three components. They are not confined to what a screen can show. -/
structure Color where
  red : Int
  green : Int
  blue : Int
  deriving DecidableEq, Repr, Inhabited

namespace Color

def black : Color := ⟨0, 0, 0⟩

def white : Color := ⟨255, 255, 255⟩

def pureRed : Color := ⟨255, 0, 0⟩

end Color

/-- A rectangle by its upper left corner and its size, which may be below zero. -/
structure Rect where
  x : Int
  y : Int
  width : Int
  height : Int
  deriving DecidableEq, Repr, Inhabited

namespace Rect

/-- The rectangle with the low halves of four numbers, **which may be any that fit a word**: large
numbers come out as others, and of numbers beyond a word there is no rectangle. -/
def ofNumbers (x y width height : Int) : Except HostError Rect :=
  if FitsWord x ∧ FitsWord y ∧ FitsWord width ∧ FitsWord height then
    .ok { x := lowHalf x, y := lowHalf y, width := lowHalf width, height := lowHalf height }
  else .error .notARectangle

/-- The point lies in the rectangle, of which the right and the lower edge are not part. -/
def Contains (r : Rect) (p q : Int) : Prop :=
  r.x ≤ p ∧ p < r.x + r.width ∧ r.y ≤ q ∧ q < r.y + r.height

end Rect

/-- A call of the host. -/
inductive HostCall where
  /-- Makes the mixer ready: rate, sample size, channels and buffer. -/
  | prepareMixer (rate sampleSize channels buffer : Int)
  /-- Starts the host's modules. -/
  | start
  /-- Opens the window. -/
  | openWindow (width height : Int)
  | caption (text : String)
  /-- Paints the window with color number zero. -/
  | erase
  /-- Starts the text module. -/
  | startFonts
  | loadFont (name : String) (size : Nat)
  /-- Paints the whole window. -/
  | fill (color : Color)
  /-- Paints a rectangle. -/
  | fillRect (color : Color) (rect : Rect)
  /-- Makes the picture of a line of text. -/
  | renderLine (line : String) (color : Color)
  /-- Puts the picture of a line of text into the window. -/
  | placeLine (line : String) (x y : Int)
  /-- Shows what was painted. -/
  | flip
  /-- Waits until the frame's time is over. -/
  | pace (framesPerSecond : Nat)
  | makeSound (wave : SquareWave)
  | volume (level : Binary64)
  /-- Plays the sound, repeating it without end. -/
  | play
  | silence
  /-- Ends everything the host's modules started. -/
  | shutDown
  deriving DecidableEq

end ChipEight
