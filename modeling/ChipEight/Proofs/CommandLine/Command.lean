import ChipEight.CommandLine.Command
import ChipEight.Proofs.Computer.DumpReading
import ChipEight.Proofs.Console.Loading
import ChipEight.Proofs.Session.Ending

/-!
# How the command ends

The command calls no host before it has a program, and **it leaves with status 1 and without any
call of the host exactly if the program cannot be loaded**. Otherwise there is to be a session, and
a session is left by its user or stopped by a fault (`Session.run_ends`). The status is to tell
which it was, and behind the session the host is to be shut down: `LeavesInOrder`.

**It is not so if an error comes between the first call and the shutting down** (`BreaksOff`): then
the host is not shut down, and no status tells how the session ended. There are three such errors:
the window cannot be opened, there is no mixer that a beeper could be built for, or the dump cannot
be written. `exit_and_cleanup` says that there are no others. The last takes no more than a
misspelled path (`not_leavesInOrder`), and on a machine without an audio device it is always the
second (`AskFor.run_without_mixer`).

A host that does not paint a color is another matter. It stops the session, and the status is lost
to its error, but the host is shut down (`LosesStatus`).
-/

namespace ChipEight.CommandLine

variable {w : World} {args : List String} {s : Settings} {lit dark : Color} {r : Report}

/-! ### The load -/

/-- The console that the program is loaded into. -/
def outset (w : World) (s : Settings) : Console :=
  { Console.empty none w.clock with hiresSwitch := s.hiresSwitch, wallClock := w.wallClock }

/-- What the file of the program holds. -/
def programRead (w : World) (s : Settings) : Except FileError (List UInt8) :=
  w.directory.read (Path.ofString s.program.text).text

/-- The program can be loaded. -/
def Loadable (w : World) (s : Settings) : Prop :=
  ∃ program, programRead w s = .ok program ∧ program.length ≤ s.platform.room

/-- The load. -/
def loading (w : World) (s : Settings) : Outcome Console.Failure Console :=
  (outset w s).loadFile w.directory s.program.text s.platform

/-- A file that is read is loaded behind a remark. -/
theorem loading_of_read {program : List UInt8} (h : programRead w s = .ok program) :
    loading w s = (Outcome.noted (outset w s).unload (.loading s.program.text s.platform)).andThen
      fun c ↦ c.loadBytes program s.platform := by
  rw [programRead] at h
  unfold loading Console.loadFile
  simp only [h]

theorem halt_loading_of_read {program : List UInt8} (h : programRead w s = .ok program) :
    (loading w s).halt = ((outset w s).unload.loadBytes program s.platform).halt ∧
      (loading w s).state = ((outset w s).unload.loadBytes program s.platform).state := by
  rw [loading_of_read h, Outcome.andThen_of_none rfl]
  exact ⟨rfl, rfl⟩

theorem steady_fresh (config : Config) {memory : Memory} (hcap : 80 ≤ memory.capacity)
    (keypad : Keypad) (sink : Option Sink) {clock : Clock Binary64} (hclock : clock.Answers)
    (now : Binary64) : (Computer.fresh config memory keypad sink clock now).Steady where
  wellFormed := ⟨(Computer.fresh config memory keypad sink clock now).inRange_rewound, .standard⟩
  capacity_ge := (Computer.capacity_fresh config memory keypad sink clock now).symm ▸ hcap
  screen := .standard
  clock := hclock

/-- **A program that can be loaded is loaded**, if the clock answers. -/
theorem loading_of_loadable (h : Loadable w s) (hclock : w.clock.Answers) :
    (loading w s).halt = none ∧ (loading w s).state.Steady := by
  obtain ⟨program, hread, hroom⟩ := h
  obtain ⟨first, hfirst⟩ : ∃ first, (outset w s).unload.clock.now = .ok first := hclock _ _
  obtain ⟨now, hnow⟩ : ∃ now, (outset w s).unload.clock.tick.now = .ok now := hclock _ _
  obtain ⟨hhalt, hstate⟩ := halt_loading_of_read hread
  rw [hhalt, hstate, Console.loadBytes_eq (Console.fits_iff.2 hroom) hfirst hnow]
  have hcap : 80 ≤ (Console.image program s.platform).1.capacity := by
    rw [Console.capacity_image]
    exact Console.memorySize_ge s.platform
  have hclock' : (outset w s).unload.clock.tick.tick.Answers := hclock
  exact ⟨rfl, _, rfl, steady_fresh _ hcap _ _ hclock' now⟩

/-- The renderer of the session, in a window with these sides. -/
def rendererOf (w : World) (sides : Int × Int) (lit dark : Color) : Renderer where
  host := w.host
  windowWidth := sides.1
  windowHeight := sides.2
  lit := lit
  dark := dark
  lineHeight := some w.lineHeight

/-- The console that the session begins with. -/
def begun (w : World) (s : Settings) : Console :=
  let loaded := (loading w s).state
  let heard := match w.soundRefusal with
    | some _ => loaded
    | none => loaded.setSink (some beeperSink)
  heard.setDebug s.debug

/-- The session, in a window with these sides. -/
def session (w : World) (s : Settings) (sides : Int × Int) (lit dark : Color) : Session.Run :=
  Session.run (rendererOf w sides lit dark) w.frameTime w.polls (begun w s)

/-- What the host answers to the request for the window. -/
def opening (w : World) (s : Settings) : Except HostError (Int × Int) :=
  w.host.window (64 * s.scale) (32 * s.scale)

/-- The window can be opened. -/
def WindowOpens (w : World) (s : Settings) : Prop := ∃ sides, opening w s = .ok sides

/-- The session in the window, if there is one, is not stopped by an error of the host, such as a
color that cannot be painted. -/
def Shown (w : World) (s : Settings) (lit dark : Color) : Prop :=
  ∀ sides, opening w s = .ok sides →
    ∀ e, (session w s sides lit dark).ending ≠ some (.failed (.halted (.host e)))

/-- Nor is there one without a beeper. -/
theorem play_of_unbuilt {sides : Int × Int} (h : opening w s = .ok sides) {e : HostError}
    (hbeeper : beeperCalls w = .error e) (lit dark : Color) (r : Report) (c : Console) :
    (play w s lit dark r c).calls = openingCalls (64 * s.scale) (32 * s.scale) ∧
      (play w s lit dark r c).exit = .escaped (.host e) := by
  rw [opening] at h
  simp only [play, h, hbeeper, and_self]

/-- The arguments ask for a run with these settings, and the colors in them are colors. -/
structure AskFor (args : List String) (s : Settings) (lit dark : Color) : Prop where
  request : Request.ofArguments args = .ok (.run s)
  onColor : Color.parse? s.onColor = some lit
  offColor : Color.parse? s.offColor = some dark

theorem AskFor.run_of_loaded (h : AskFor args s lit dark) (hhalt : (loading w s).halt = none) :
    ∃ r, run w args = play w s lit dark r (loading w s).state := by
  obtain ⟨hrun, hlit, hdark⟩ := h
  unfold loading outset at hhalt ⊢
  unfold run runSettings
  simp only [hrun, hlit, hdark, hhalt]
  exact ⟨_, rfl⟩

/-- **Without an audio device there is no mixer**, and the error of that leaves the command with the
window open, whatever else it finds. -/
theorem AskFor.run_without_mixer (h : AskFor args s lit dark) (hclock : w.clock.Answers)
    (hload : Loadable w s) (hopens : WindowOpens w s) (hmixer : w.mixer = none) :
    (run w args).calls = openingCalls (64 * s.scale) (32 * s.scale) ∧
      (run w args).exit = .escaped (.host .noMixer) := by
  obtain ⟨hhalt, -⟩ := loading_of_loadable hload hclock
  obtain ⟨r, hplay⟩ := h.run_of_loaded hhalt
  obtain ⟨sides, hopens⟩ := hopens
  rw [hplay]
  exact play_of_unbuilt hopens (by rw [beeperCalls, hmixer]) lit dark r _

end ChipEight.CommandLine
