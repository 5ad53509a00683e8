import ChipEight.CommandLine.Arguments
import ChipEight.CommandLine.ColorText
import ChipEight.Computer.Dump
import ChipEight.Session
import ChipEight.Sound.Beeper
import ChipEight.Text.ControlSequence

/-!
# The command

The command loads a program, opens a window, runs a session in it and leaves with an exit status
that tells how the session ended. Everything it meets is a value: the files in `World.directory`,
the events in `World.polls`, the windows and colors of `World.host`, the mixer in `World.mixer`.
Everything it does is in the `Report`.

**The host's modules are started only when there is a program to show.** Behind a session they are
shut down, however the session ended, with one exception: if a dump was asked for and cannot be
written, that error leaves the command before the shutting down. Nor are they shut down if there is
no session, because the window cannot be opened or the beeper cannot be made. A mixer that refuses
the sound is no such error: it is remarked on, and the session has no sound.

An error that is neither the program's nor one of reading it leaves the command as it is: a name
that no file can have, a color that the host cannot paint, or a number that the host cannot take,
such as the reading of a clock that has run too far. All other calls of the host are taken to do
what is asked.
-/

namespace ChipEight.CommandLine

/-- What the command finds. -/
structure World where
  directory : Directory := {}
  polls : List Poll := []
  host : Host := .lenient
  /-- The mixer, if there is one. A machine without an audio device has none. -/
  mixer : Option Mixer := some {}
  /-- Why the mixer refuses the sound, if it does. -/
  soundRefusal : Option String := none
  clock : Clock Binary64
  /-- How far the clock is moved at every turn of the main loop. -/
  frameTime : Int := 0
  wallClock : Int := 0
  /-- The height of a line of text in the overlay's font. -/
  lineHeight : Int := 14

/-- An error that leaves the command as it is. -/
inductive Escape where
  | file (e : FileError)
  | host (e : HostError)
  deriving DecidableEq, Repr

/-- How the command ends. -/
inductive Exit where
  | status (code : Nat)
  | escaped (e : Escape)
  deriving DecidableEq, Repr

/-- What the command writes for its user to read. -/
inductive Output where
  | notice (n : Notice)
  | usage (e : UsageError)
  | help
  deriving DecidableEq, Repr

/-- What the command has done. -/
structure Report where
  exit : Exit
  level : Level := .info
  outputs : List Output := []
  calls : List HostCall := []
  directory : Directory
  console : Option Console := none

/-! ### Texts -/

/-- The first line of every explanation. -/
def usageLine : String := s!"Usage: chip8 [OPTIONS] {UsageError.programArgument}"

/-- The explanation of the options. -/
def helpText : String := String.intercalate "\n"
  [usageLine, "", "Options:",
    "  --eti660          Load as an ETI 660 program (2K RAM, starts at 0x600).",
    "  --no-hires-quirk  Do not treat JP 0x260 at 0x200 as a hi-res switch.",
    "  --scale INTEGER   Window pixels per CHIP-8 pixel.  [default: 10]",
    "  --on-color TEXT   Color of lit pixels.  [default: FFFFFF]",
    "  --off-color TEXT  Background color.  [default: 000000]",
    "  --debug           Start with the register overlay shown.",
    "  --dump PATH       Write a machine state dump here on exit or fault.",
    "  --log-level [debug|info|warning|error]",
    "                    [default: INFO]",
    "  --help            Show this message and exit.", ""]

/-- The text of one output. A notice below the level is not written. An explanation repeats what the
user has typed, and is **written without control sequences**; a notice is written as it is. -/
def Output.text (level : Level) : Output → String
  | notice n => if level.rank ≤ n.level.rank then s!"{n.level.name}:root:{n.text}" ++ "\n" else ""
  | usage e =>
    usageLine ++ "\n" ++ s!"Try 'chip8 {Choice.help.spelling}' for help." ++ "\n\n"
      ++ String.ofList (ControlSequence.remove (s!"Error: {e.message}" ++ "\n").toList)
  | help => helpText

/-- Everything that was written. -/
def Report.text (r : Report) : String := String.join (r.outputs.map (Output.text r.level))

/-! ### From actions to calls -/

/-- The beeper's sink. -/
def beeperSink : Sink := 0

/-- What a session's actions come to when the beeper plays the sound: notices for the log, and calls
of the host in their order. -/
def playing : Beeper → List Action → List Output × List HostCall
  | _, [] => ([], [])
  | b, .call c :: rest =>
    let (outputs, calls) := playing b rest
    (outputs, c :: calls)
  | b, .signal (.notice n) :: rest =>
    let (outputs, calls) := playing b rest
    (.notice n :: outputs, calls)
  | b, .signal (.sound _ on) :: rest =>
    let (b, made) := b.set on
    let (outputs, calls) := playing b rest
    (outputs, made ++ calls)

/-! ### The run of the command -/

/-- The calls before the window is opened. -/
def startingCalls : List HostCall := [.prepareMixer 44100 (-16) 1 1024, .start]

/-- The calls that open the window, with those before it. -/
def openingCalls (width height : Int) : List HostCall :=
  startingCalls ++ [.openWindow width height, .caption "CHIP-8", .erase]

/-- The calls, or the mixer's reason to refuse the sound that they make. -/
def World.taken (w : World) (calls : List HostCall) : Except String (List HostCall) :=
  match w.soundRefusal with
  | some reason => .error reason
  | none => .ok calls

/-- The calls that make the beeper, if the mixer takes its sound. **The sound is built before**, and
without a mixer there is none to build it for. -/
def beeperCalls (w : World) : Except HostError (Except String (List HostCall)) :=
  match w.mixer with
  | none => .error .noMixer
  | some mixer => (Beeper.build mixer Beeper.standardVolume).map w.taken

/-- The exit status and the last remark for an ending. -/
def closing : Session.Ending → Except Escape (Nat × List Output)
  | .closed => .ok (0, [])
  | .interrupted => .ok (3, [.notice .interrupted])
  | .failed (.halted (.fault f)) => .ok (100, [.notice (.executionFailed f)])
  | .failed (.halted (.host e)) => .error (.host e)
  | .failed _ => .ok (0, [])

/-- Writes the dump, if one was asked for and there is a computer to dump. -/
def writeDump (directory : Directory) (target : Option Path) (c : Console) :
    Except FileError Directory :=
  match target, c.computer? with
  | some path, some computer => computer.saveDump directory path.text
  | _, _ => .ok directory

/-- The end of the command, once the session is over. -/
def finish (w : World) (s : Settings) (r : Report) (run : Session.Run) : Report :=
  let r := { r with console := some run.console }
  let ended := closing (run.ending.getD .closed)
  let r := match ended with
    | .ok (_, outputs) => { r with outputs := r.outputs ++ outputs }
    | .error _ => r
  match writeDump w.directory s.dump run.console with
  -- The one way out of a session on which the host is not shut down.
  | .error e => { r with exit := .escaped (.file e) }
  | .ok directory =>
    { r with
      directory := directory
      calls := r.calls ++ [.shutDown]
      exit := match ended with
        | .ok (code, _) => .status code
        | .error e => .escaped e }

/-- The session of a loaded program in an open window, and the end of the command behind it. -/
def playIn (renderer : Renderer) (w : World) (s : Settings) (r : Report) (c : Console) : Report :=
  let run := Session.run renderer w.frameTime w.polls (c.setDebug s.debug)
  let (outputs, calls) := playing {} run.actions
  let r := { r with
    outputs := r.outputs ++ .notice .running :: outputs
    calls := r.calls ++ calls }
  finish w s r run

/-- Opens the window for a loaded program, makes the beeper and runs the session. -/
def play (w : World) (s : Settings) (lit dark : Color) (r : Report) (c : Console) : Report :=
  let width := 64 * s.scale
  let height := 32 * s.scale
  match w.host.window width height with
  | .error e =>
    { r with calls := startingCalls, exit := .escaped (.host e), console := some c }
  | .ok (windowWidth, windowHeight) =>
    let renderer : Renderer :=
      { host := w.host, windowWidth, windowHeight, lit, dark, lineHeight := some w.lineHeight }
    let r := { r with calls := openingCalls width height }
    match beeperCalls w with
    | .error e => { r with exit := .escaped (.host e), console := some c }
    | .ok (.error reason) =>
      playIn renderer w s { r with outputs := r.outputs ++ [.notice (.noSound reason)] } c
    | .ok (.ok calls) =>
      playIn renderer w s { r with calls := r.calls ++ calls } (c.setSink (some beeperSink))

/-- The notices among signals. -/
def noticesOf (signals : List Signal) : List Output :=
  (signals.filterMap Signal.notice?).map .notice

/-- The error that a failure to load leaves the command with, if it is not reported. -/
def escapeOf? : Console.Failure → Option Escape
  | .impossibleName => some (.file .impossibleName)
  | .halted (.host e) => some (.host e)
  | _ => none

/-- Loads the program and runs it. -/
def runSettings (w : World) (s : Settings) : Report :=
  let begun : Report :=
    { exit := .status 0, level := s.level, outputs := [.notice .started], directory := w.directory }
  match Color.parse? s.onColor, Color.parse? s.offColor with
  | some lit, some dark =>
    let console : Console :=
      { Console.empty none w.clock with hiresSwitch := s.hiresSwitch, wallClock := w.wallClock }
    let loaded := console.loadFile w.directory s.program.text s.platform
    let r := { begun with outputs := begun.outputs ++ noticesOf loaded.signals }
    match loaded.halt with
    | some f =>
      let r := { r with console := some loaded.state }
      match escapeOf? f with
      | some e => { r with exit := .escaped e }
      | none =>
        { r with exit := .status 1, outputs := r.outputs ++ [.notice (.loadFailed f.message)] }
    | none => play w s lit dark r loaded.state
  | _, _ => { begun with exit := .status 2, outputs := begun.outputs ++ [.usage .badColor] }

/-- The whole command. -/
def run (w : World) (args : List String) : Report :=
  match Request.ofArguments args with
  | .error e => { exit := .status 2, outputs := [.usage e], directory := w.directory }
  | .ok .help => { exit := .status 0, outputs := [.help], directory := w.directory }
  | .ok (.run settings) => runSettings w settings

end ChipEight.CommandLine
