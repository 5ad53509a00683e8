import ChipEight.Computer.Step
import ChipEight.Files.Directory

/-!
# The console

A console is what a player has in front of them: a screen, a keypad and a sound sink that stay, and
programs that come and go. **With a program loaded there is a computer**, and the screen, the keypad
and the clock are the computer's own. Without one they lie idle, together with the memory of the
last program that was loaded, if there ever was one.

Loading takes the old program away first, whether or not the new one fits. A program that does not
fit leaves everything else as it was: the old memory, the screen, the sink and the clock. **A
program that fits is in memory before its computer is switched on**, so it stays there when the
clock has no answer and there is no computer to run it.
-/

namespace ChipEight

/-- What a console works with: idle parts, or a computer that has them. -/
inductive Console.Work where
  | idle (screen : Screen) (keypad : Keypad) (clock : Clock Binary64) (memory : Option Memory)
  | running (computer : Computer)

/-- A console. -/
structure Console where
  work : Console.Work
  sink : Option Sink
  hiresSwitch : Bool := true
  stepsPerFrame : Int := 8
  /-- The wall clock that random sources are seeded with, in nanoseconds. -/
  wallClock : Int := 0
  /-- The register overlay is shown. -/
  debug : Bool := false

namespace Console

/-- A console without a program. -/
def empty (sink : Option Sink) (clock : Clock Binary64) : Console where
  work := .idle .standard .allUp clock none
  sink := sink

/-! ### The parts -/

/-- The computer, if a program is loaded. -/
def computer? (c : Console) : Option Computer :=
  match c.work with
  | .idle .. => none
  | .running computer => some computer

def isLoaded (c : Console) : Bool := c.computer?.isSome

def screen (c : Console) : Screen :=
  match c.work with
  | .idle screen .. => screen
  | .running computer => computer.screen

def keypad (c : Console) : Keypad :=
  match c.work with
  | .idle _ keypad .. => keypad
  | .running computer => computer.keypad

def clock (c : Console) : Clock Binary64 :=
  match c.work with
  | .idle _ _ clock _ => clock
  | .running computer => computer.clock

/-- The memory of the program that was last loaded. -/
def memory? (c : Console) : Option Memory :=
  match c.work with
  | .idle _ _ _ memory => memory
  | .running computer => some computer.memory

/-- The console with another state of its keypad. -/
def setKeypad (c : Console) (keypad : Keypad) : Console :=
  match c.work with
  | .idle screen _ clock memory => { c with work := .idle screen keypad clock memory }
  | .running computer => { c with work := .running { computer with keypad := keypad } }

/-- The console with its clock moved by hand. -/
def advance (c : Console) (d : Int) : Console :=
  match c.work with
  | .idle screen keypad clock memory =>
    { c with work := .idle screen keypad (clock.advance d) memory }
  | .running computer =>
    { c with work := .running { computer with clock := computer.clock.advance d } }

/-- The console with the state of its computer. -/
def withComputer (c : Console) (computer : Computer) : Console :=
  { c with work := .running computer }

/-- The console without its program. -/
def unload (c : Console) : Console :=
  { c with work := .idle c.screen c.keypad c.clock c.memory? }

/-! ### Operations -/

/-- Why an operation of a console did not get to its end. -/
inductive Failure where
  /-- The program cannot be read. -/
  | unreadable (name : String) (path : Path) (reason : FileError)
  /-- The program's name is none that a file can have. -/
  | impossibleName
  /-- The program is too large for the memory behind its start. -/
  | tooLarge (size start : Nat)
  /-- There is no program to be reset. -/
  | nothingLoaded
  /-- The computer halted. -/
  | halted (h : Halt)
  deriving DecidableEq, Repr

/-- The failures of loading and resetting in words. -/
def Failure.message : Failure → String
  | unreadable name path reason =>
    s!"Failed to load program - could not read {name}: {reason.text path}"
  | tooLarge size start =>
    s!"Failed to load program - {size} bytes do not fit in memory at 0x{Hex.padded 3 start}"
  | nothingLoaded => "Cannot soft reset - no program loaded"
  | impossibleName => FileError.impossibleName.words
  | halted (.fault f) => f.text
  | halted (.host e) => e.words

/-- What a console's computers are built to be. -/
def config (c : Console) (platform : Platform) : Config where
  platform := platform
  hiresSwitch := c.hiresSwitch
  stepsPerFrame := c.stepsPerFrame
  seed := .wallClock c.wallClock

/-- The console with a memory in which there is a program that nothing runs. -/
def withMemory (c : Console) (memory : Memory) : Console :=
  { c with work := .idle c.screen c.keypad c.clock (some memory) }

/-- Switches on a computer for a program in memory. A computer that does not get through its first
reset is taken away again. -/
def switchOn (c : Console) (memory : Memory) (platform : Platform) : Outcome Failure Console :=
  match Computer.boot (c.config platform) memory c.screen c.keypad c.sink c.clock with
  | .error e => ⟨c.withMemory memory, [], some (.halted (.host e))⟩
  | .ok booted =>
    let running := c.withComputer booted.state
    match booted.halt with
    | none => ⟨running, booted.signals, none⟩
    | some h => ⟨running.unload, booted.signals, some (.halted h)⟩

/-- Loads a program that is at hand. -/
def loadBytes (c : Console) (program : List UInt8) (platform : Platform) :
    Outcome Failure Console :=
  let c := c.unload
  match (Memory.blank platform.memorySize).load platform.programStart program with
  | (_, some _) => ⟨c, [], some (.tooLarge program.length platform.programStart)⟩
  | (memory, none) =>
    (Outcome.noted c (.loaded program.length)).andThen fun c ↦ c.switchOn memory platform

/-- Loads a program from a file. -/
def loadFile (c : Console) (directory : Directory) (name : String) (platform : Platform) :
    Outcome Failure Console :=
  let path := Path.ofString name
  let begun : Outcome Failure Console := .noted c.unload (.loading name platform)
  match directory.read path.text with
  | .error .impossibleName => { begun with halt := some .impossibleName }
  | .error reason => { begun with halt := some (.unreadable name path reason) }
  | .ok program => begun.andThen fun c ↦ c.loadBytes program platform

/-- Runs one frame, if a program is loaded. -/
def runFrame (c : Console) : Outcome Failure Console :=
  match c.work with
  | .idle .. => .done c
  | .running computer => computer.runFrame.lift c.withComputer .halted

/-- Starts the loaded program from its beginning, without loading it anew. -/
def softReset (c : Console) : Outcome Failure Console :=
  let begun : Outcome Failure Console := .noted c .softReset
  match c.work with
  | .idle .. => { begun with halt := some .nothingLoaded }
  | .running computer => begun.andThen fun c ↦ computer.reset.lift c.withComputer .halted

/-- Replaces the sound sink, of the console and of its computer. -/
def setSink (c : Console) (sink : Option Sink) : Console :=
  match c.work with
  | .idle .. => { c with sink := sink }
  | .running computer => { c with sink := sink, work := .running (computer.setSink sink) }

/-- Shows or hides the register overlay. -/
def setDebug (c : Console) (on : Bool) : Console := { c with debug := on }

end Console

end ChipEight
