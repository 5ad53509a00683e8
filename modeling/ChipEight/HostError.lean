/-!
# Errors of the host

What goes wrong **outside the emulated machine**: a number that the host's own tables, cells and
clocks cannot take. A program running on the machine never causes one of these; they answer values
poked into the machine from outside, clocks that have run too far, windows that cannot be drawn and
sounds that cannot be built, be it only because there is no mixer.
-/

namespace ChipEight

/-- Why the host could not carry out an operation. -/
inductive HostError where
  /-- A position outside the table it is used on. -/
  | badIndex
  /-- A division by zero, such as a coordinate reduced modulo a side of length zero. -/
  | divisionByZero
  /-- A number too large or too small for the cell or the format that should hold it. -/
  | outOfRange
  /-- A fraction where only a whole number will do. -/
  | notWhole
  /-- A length below zero. -/
  | negativeLength
  /-- Numbers that no rectangle can have. -/
  | notARectangle
  /-- A list too long to be kept. -/
  | outOfMemory
  /-- A sound without a mixer to build it for. -/
  | noMixer
  deriving DecidableEq, Repr, Inhabited

/-- The error in words. -/
def HostError.words : HostError → String
  | badIndex => "position outside the table"
  | divisionByZero => "division by zero"
  | outOfRange => "number out of range"
  | notWhole => "not a whole number"
  | negativeLength => "length below zero"
  | notARectangle => "not a rectangle"
  | outOfMemory => "out of memory"
  | noMixer => "no mixer"

end ChipEight
