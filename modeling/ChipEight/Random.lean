import ChipEight.Random.Twister

/-!
# Random bytes

The source behind the machine's random instruction. It is seeded with a whole number, or with the
host's wall clock when no number is given, and **seeded anew at every reset**, so what was drawn
before a reset leaves no trace behind it.

A byte is drawn by rejection: the nine high bits of a word are taken until they are below 256.
-/

namespace ChipEight

/-- What the random source is seeded with. -/
inductive Seed where
  /-- A number of one's own. -/
  | fixed (n : Int)
  /-- The reading of the wall clock, in nanoseconds. -/
  | wallClock (nanoseconds : Int)
  deriving DecidableEq, Repr, Inhabited

/-- The number that is used in the end. -/
def Seed.value : Seed → Int
  | .fixed n => n
  | .wallClock nanoseconds => nanoseconds

/-- A source of random bytes. -/
structure RandomSource where
  generator : Twister
  deriving DecidableEq

namespace RandomSource

def seeded (seed : Seed) : RandomSource := ⟨Twister.ofSeed seed.value⟩

instance : Inhabited RandomSource := ⟨seeded (.fixed 0)⟩

/-- Draws words until one has its nine high bits below 256, at most `tries` of them. -/
def draw : Nat → Twister → UInt8 × Twister
  | 0, t => (0, t)
  | tries + 1, t =>
    let (word, t') := t.next
    let high := word >>> 23
    if high < 256 then (high.toUInt8, t') else draw tries t'

/-- **Enough tries for every draw.** The high bits of the generator's words are a sequence of
maximal length with a memory of 19937 bits, and such a sequence has no run of ones longer than its
memory. -/
def enoughTries : Nat := 19938

/-- The next byte. -/
def nextByte (r : RandomSource) : UInt8 × RandomSource :=
  let (byte, t) := draw enoughTries r.generator
  (byte, ⟨t⟩)

end RandomSource

end ChipEight
