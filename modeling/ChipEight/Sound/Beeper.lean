import ChipEight.HostCall

/-!
# The beeper

The sound sink of a host that can play: one sound, a square wave repeated without end, that is
either on or off. **Only a change is passed on**; being told the same twice is nothing.
-/

namespace ChipEight

/-- What a mixer plays: its rate and its sample size. -/
structure Mixer where
  rate : Int := 44100
  sampleSize : Int := -16
  deriving DecidableEq, Repr, Inhabited

/-- The beeper: whether it sounds. -/
structure Beeper where
  beeping : Bool := false
  deriving DecidableEq, Repr, Inhabited

namespace Beeper

/-- How loud the beeper is, where a host says nothing else. -/
def standardVolume : Binary64 := Binary64.ofRatio 1 10

/-- The calls that make a beeper. -/
def build (mixer : Mixer) (volume : Binary64) : Except HostError (List HostCall) :=
  (SquareWave.build mixer.rate mixer.sampleSize SquareWave.standardFrequency).map fun wave ↦
    [.makeSound wave, .volume volume]

/-- Tells the beeper what to do. -/
def set (b : Beeper) (on : Bool) : Beeper × List HostCall :=
  if b.beeping = on then (b, []) else (⟨on⟩, [if on then .play else .silence])

@[simp] theorem beeping_set (b : Beeper) (on : Bool) : (b.set on).1.beeping = on := by
  unfold set
  split <;> simp_all

end Beeper

end ChipEight
