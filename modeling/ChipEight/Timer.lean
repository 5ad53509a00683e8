import ChipEight.Clock
import ChipEight.Outcome

/-!
# The 60 Hz timer

The countdown registers are lowered once per period of **wall-clock time**, however many
instructions run in between. An accumulator starts at one period and every update takes from it the
time since the update before.

**The tick comes one update late.** An update first asks whether the accumulator was already used up
when the update *before* it ended; only then are the registers lowered and a new period begun. The
elapsed time is taken off afterwards, from the new period if there is one. What was overdrawn is
forgotten, so two ticks are never less than a period apart.

`Timer` is the accumulator by itself. `Countdown` puts it together with the registers that it
lowers, the clock that it reads and the sink that it tells, which is how a computer uses it. The
clock is read before anything else is done, so where it has no answer **nothing is changed**.

The module asks of a kind of time only that readings can be subtracted and that a rest can be
recognised as used up. Exact rationals and binary64 numbers both qualify.
-/

namespace ChipEight

/-- A kind of time: readings that can be subtracted, and rests that can be used up. -/
class TimeScale (τ : Type) extends Sub τ where
  /-- The rest is at zero or below. -/
  isSpent : τ → Bool

/-- An overdrawn rest may be infinite, and a rest that is no number is never used up. -/
instance : TimeScale Binary64 where
  isSpent := Binary64.isNonpos

instance : TimeScale Rat where
  isSpent := fun x ↦ x ≤ 0

/-- The timer. -/
structure Timer (τ : Type) where
  period : τ
  /-- The clock's reading at the last update, or at the last reset. -/
  lastReading : τ
  /-- What is left of the period. -/
  rest : τ

namespace Timer

variable {τ : Type} [TimeScale τ]

/-- A timer that begins a period now. -/
def started (period now : τ) : Timer τ where
  period := period
  lastReading := now
  rest := period

/-- The timer set back to the beginning of a period. -/
def reset (t : Timer τ) (now : τ) : Timer τ := started t.period now

/-- The next update will be a tick. -/
def isDue (t : Timer τ) : Bool := TimeScale.isSpent t.rest

/-- The timer after an update. -/
def update (t : Timer τ) (now : τ) : Timer τ where
  period := t.period
  lastReading := now
  rest := (if t.isDue then t.period else t.rest) - (now - t.lastReading)

/-- The countdown registers after an update. -/
def applyTo (t : Timer τ) (r : Registers) : Registers := if t.isDue then r.countDown else r

/-- What an update tells the sound sink: at a tick, whether the sound register is still running. -/
def announces (t : Timer τ) (r : Registers) : Option Bool :=
  if t.isDue then some (decide (0 < r.countDown.sound)) else none

/-- The length of a period, about a sixtieth of a second. -/
def standardPeriod : Binary64 := Binary64.ofRatio 16667 1000000

/-! ### Laws -/

@[simp] theorem period_update (t : Timer τ) (now : τ) : (t.update now).period = t.period := rfl

end Timer

/-- The timer together with what it works on. -/
structure Countdown (τ : Type) where
  registers : Registers
  timer : Timer τ
  clock : Clock τ
  sink : Option Sink

namespace Countdown

variable {τ : Type} [TimeScale τ]

/-- A countdown that has read the clock once, to begin its first period. -/
def started (registers : Registers) (period : τ) (clock : Clock τ) (sink : Option Sink) :
    Except HostError (Countdown τ) :=
  clock.now.map fun now ↦ ⟨registers, .started period now, clock.tick, sink⟩

/-- The beginning of a new period. The registers and the sink are left alone. -/
def reset (c : Countdown τ) : Except HostError (Countdown τ) :=
  c.clock.now.map fun now ↦ { c with timer := c.timer.reset now, clock := c.clock.tick }

/-- What an update tells the sink. -/
def announcement (c : Countdown τ) : List Signal :=
  match c.timer.announces c.registers with
  | none => []
  | some on => Signal.tell c.sink on

/-- The countdown after an update at a given time. -/
def updated (c : Countdown τ) (now : τ) : Countdown τ :=
  { c with
    registers := c.timer.applyTo c.registers
    timer := c.timer.update now
    clock := c.clock.tick }

/-- An update: the clock is read, and if it answers the sink is told. -/
def update (c : Countdown τ) : Outcome HostError (Countdown τ) :=
  match c.clock.now with
  | .error e => ⟨c, [], some e⟩
  | .ok now => ⟨c.updated now, c.announcement, none⟩

/-- Up to `n` updates, as long as the clock answers. -/
def updates : Nat → Countdown τ → Outcome HostError (Countdown τ)
  | 0, c => .done c
  | n + 1, c => c.update.andThen (updates n)

end Countdown

end ChipEight
