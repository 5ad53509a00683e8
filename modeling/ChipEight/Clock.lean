import ChipEight.Number.Quotient

/-!
# The host's clock

A clock is asked for readings. What a reading is depends on **how often the clock was read before**
and on **how far it was moved by hand**; any function of the two is a clock, so nothing is assumed
about its course: it may stand still, jump or run backwards.

A clock need not have an answer. One that counts in whole numbers can be moved so far that its
reading is no longer a number of seconds; asking it then is an error, and **is not counted as a
reading**.
-/

namespace ChipEight

/-- A clock with readings of type `τ`. -/
structure Clock (τ : Type) where
  /-- The reading, by the number of earlier readings and the total it was moved. -/
  reading : Nat → Int → Except HostError τ
  reads : Nat := 0
  offset : Int := 0

namespace Clock

variable {τ : Type}

/-- What the next reading will be. -/
def now (c : Clock τ) : Except HostError τ := c.reading c.reads c.offset

/-- The clock after one reading. -/
def tick (c : Clock τ) : Clock τ := { c with reads := c.reads + 1 }

/-- The clock moved by hand. -/
def advance (c : Clock τ) (d : Int) : Clock τ := { c with offset := c.offset + d }

/-- A clock that counts microseconds and reads in seconds. It starts at `start` and moves on by
`step` after every reading. -/
def microseconds (start step : Int) : Clock Binary64 where
  reading := fun reads offset ↦ quotient (start + reads * step + offset) 1000000

instance : Inhabited (Clock Binary64) := ⟨microseconds 0 0⟩

end Clock

end ChipEight
