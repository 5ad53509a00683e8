import ChipEight.Font
import ChipEight.Keypad
import ChipEight.Memory
import ChipEight.Outcome
import ChipEight.Random
import ChipEight.Screen
import ChipEight.Timer

/-!
# The computer

A computer is a processor together with the memory, the screen and the keypad that it works on and
the clock that it reads. It runs on its own: keys, sound and time come from outside, the first as
the state of the keypad, the second as signals, the third as readings of the clock.

**The sink is kept twice**, once for resets and once for the timer's ticks. `setSink` changes both,
and it is the only operation that changes either.
-/

namespace ChipEight

/-- What a computer is built to be, and keeps being through every reset. -/
structure Config where
  platform : Platform := .standard
  /-- A jump to `0x260` at `0x200` switches to the high-resolution mode. -/
  hiresSwitch : Bool := true
  stepsPerFrame : Int := 8
  seed : Seed := .fixed 0
  deriving DecidableEq, Repr, Inhabited

/-- The computer. -/
structure Computer where
  config : Config
  memory : Memory
  screen : Screen
  keypad : Keypad
  clock : Clock Binary64
  registers : Registers
  random : RandomSource
  timer : Timer Binary64
  /-- The sink that is silenced at a reset. -/
  sink : Option Sink
  /-- The sink that is told at a tick of the timer. -/
  timerSink : Option Sink
  /-- The high-resolution mode is on. -/
  hires : Bool
  /-- The last instruction waits for a key. -/
  waiting : Bool
  lastOpcode : Int
  /-- The last fault since the last reset. -/
  lastFault : Option Fault

/-- What a computer is doing. -/
inductive Status where
  | running
  | waitingForInput
  | faulted
  deriving DecidableEq, Repr, Inhabited

def Status.text : Status → String
  | running => "running"
  | waitingForInput => "waiting for input"
  | faulted => "faulted"

namespace Computer

/-- What the computer is doing. A fault is remembered until the next reset. -/
def status (c : Computer) : Status :=
  if c.lastFault.isSome then .faulted else if c.waiting then .waitingForInput else .running

/-- Where the loaded program begins. -/
def programStart (c : Computer) : Nat := c.config.platform.programStart

/-- Replaces the sound sink. -/
def setSink (c : Computer) (sink : Option Sink) : Computer :=
  { c with sink := sink, timerSink := sink }

/-- The word at the program counter, the high byte first. -/
def fetch (c : Computer) : Except Fault.Cause Nat := do
  let high ← c.memory.read c.registers.pc
  let low ← c.memory.read (c.registers.pc + 1)
  return high.toNat * 256 + low.toNat

/-- The overlay of the computer's registers. -/
def overlay (c : Computer) : String := c.registers.overlay c.lastOpcode c.waiting

/-- The place where the computer stands, for the report of a fault. -/
def context (c : Computer) (opcode : Option Int) : Fault.Context where
  pc := c.registers.pc
  sp := c.registers.sp
  i := c.registers.i
  opcode := opcode

/-! ### Reset -/

/-- The part of a reset that neither the memory nor the clock can stop. -/
def restarted (c : Computer) (now : Binary64) : Computer :=
  { c with
    timer := c.timer.reset now
    clock := c.clock.tick
    screen := .standard
    hires := false
    waiting := false
    lastOpcode := 0
    lastFault := none }

/-- Everything back to where it was when the program was loaded, **the memory excepted**: of that,
only the font is written anew. The registers, the font and the random source come first, and stay
done if there is no room for the font or if the clock has no answer. -/
def reset (c : Computer) : Outcome Halt Computer :=
  let registers := Registers.initial c.programStart
  let (memory, cause) := c.memory.load Font.start Font.sprites
  let c := { c with registers, memory }
  match cause with
  | some cause => .faulted c cause
  | none =>
    let c := { c with random := .seeded c.config.seed }
    match c.clock.now with
    | .error e => .refused c e
    | .ok now => ⟨c.restarted now, Signal.tell c.sink false, none⟩

/-- A computer that was never reset. Its timer has read the clock once, so without a reading there
is no computer. -/
def unstarted (config : Config) (memory : Memory) (screen : Screen) (keypad : Keypad)
    (sink : Option Sink) (clock : Clock Binary64) : Except HostError Computer :=
  clock.now.map fun now ↦
    { config, memory, screen, keypad, sink
      clock := clock.tick
      registers := .initial 0x200
      random := .seeded config.seed
      timer := .started Timer.standardPeriod now
      timerSink := sink
      hires := false
      waiting := false
      lastOpcode := 0
      lastFault := none }

/-- A computer as it is switched on: it begins with a reset, which faults if the memory is too small
for the font. -/
def boot (config : Config) (memory : Memory) (screen : Screen) (keypad : Keypad)
    (sink : Option Sink) (clock : Clock Binary64) : Except HostError (Outcome Halt Computer) :=
  (unstarted config memory screen keypad sink clock).map reset

end Computer

end ChipEight
