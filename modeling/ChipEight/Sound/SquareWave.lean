import ChipEight.Number.HostWord
import ChipEight.Number.Quotient

/-!
# The square wave

One period of a square wave at the full amplitude of the mixer's samples: the first half high, the
second low, **the odd sample going to the low half**. The period is the nearest whole number of
samples, and the samples have to fit sixteen bits, whatever the mixer uses itself. The two halves
are laid out before any sample is looked at, so a period that is too long is found out first.
-/

namespace ChipEight

/-- One period: its amplitude, and how many samples are high and low. -/
structure SquareWave where
  amplitude : Int
  high : Nat
  low : Nat
  deriving DecidableEq, Repr, Inhabited

namespace SquareWave

/-- The samples of the period. -/
def samples (w : SquareWave) : List Int :=
  List.replicate w.high w.amplitude ++ List.replicate w.low (-w.amplitude)

/-- The wave without a single sample. -/
def silent : SquareWave := ⟨0, 0, 0⟩

/-- The longest run of samples that the host has room for. -/
def longestRun : Int := 1099511627776

/-- How many samples a run has, if the host can count and keep them. A run of less than none is
empty. -/
def runLength (z : Int) : Except HostError Nat :=
  if ¬FitsWord z then .error .outOfRange
  else if longestRun < z then .error .outOfMemory
  else .ok z.toNat

/-- The period for a sample rate, a sample size in bits and a frequency. A sample size below zero
stands for signed samples. A period of no samples can be built for any sample size. -/
def build (rate sampleSize frequency : Int) : Except HostError SquareWave := do
  let period ← nearestInt (← quotient rate frequency)
  let high ← runLength (period / 2)
  let low ← runLength (period - period / 2)
  -- Without a sample there is nothing that could have the wrong size.
  if high + low = 0 then return silent
  else if sampleSize = 0 then throw .notWhole
  else if 16 < sampleSize.natAbs then throw .outOfRange
  else return { amplitude := (twoPow (sampleSize.natAbs - 1) : Int) - 1, high, low }

/-- The pitch of the machine's only sound. -/
def standardFrequency : Int := 440

end SquareWave

end ChipEight
