import ChipEight.Input.KeyMap
import ChipEight.Proofs.Computer.Restart

/-!
# Histories of a console

A console is used by **requests**: programs are loaded and reset, frames run, events and keys come
in, time passes and the sink is replaced. A history is any list of them, and it goes on after one
that has failed.

A load that succeeds leaves a console that **hosts** a computer (`Hosts`): one that was put together
from the console's own parts, for the platform that was asked for. As long as nothing is loaded the
console goes on hosting one (`Hosts.after`), whatever fails meanwhile. It is always the same
computer in another state, but nothing here has to say so.
-/

namespace ChipEight.Console

variable {c : Console} {platform : Platform} {computer computer' : Computer}

/-! ### Requests -/

/-- Something that is asked of a console. -/
inductive Request where
  | loadBytes (program : List UInt8) (platform : Platform)
  | loadFile (directory : Directory) (name : String) (platform : Platform)
  | frame
  /-- A single step of the computer. -/
  | step
  | softReset
  | event (e : Event)
  | press (code : Int)
  | release (code : Int)
  | moveClock (d : Int)
  | setSink (sink : Option Sink)
  | setDebug (on : Bool)

/-- The request is for another program, or for the same one again. -/
def Request.isLoad : Request → Bool
  | loadBytes .. => true
  | loadFile .. => true
  | _ => false

/-- Takes one step, if a program is loaded. -/
def step (c : Console) : Outcome Failure Console :=
  match c.work with
  | .idle .. => .done c
  | .running computer => computer.step.lift c.withComputer .halted

/-- What a request does. -/
def serve (c : Console) : Request → Outcome Failure Console
  | .loadBytes program platform => c.loadBytes program platform
  | .loadFile directory name platform => c.loadFile directory name platform
  | .frame => c.runFrame
  | .step => c.step
  | .softReset => c.softReset
  | .event e => c.handle e
  | .press code => c.changeKeypad (c.keypad.press code)
  | .release code => c.changeKeypad (c.keypad.release code)
  | .moveClock d => .done (c.advance d)
  | .setSink sink => .done (c.setSink sink)
  | .setDebug on => .done (c.setDebug on)

/-- The console after a history. -/
def after (c : Console) (requests : List Request) : Console :=
  requests.foldl (fun c request ↦ (c.serve request).state) c

/-! ### Hosting -/

/-- The console runs a computer that was put together from its parts. -/
structure Hosts (c : Console) (platform : Platform) (computer : Computer) : Prop where
  work_eq : c.work = .running computer
  config_eq : computer.config = c.config platform
  capacity_eq : computer.memory.capacity = platform.memorySize
  sink_eq : computer.sink = c.sink
  assembled : computer.Assembled

/-- What a computer does by itself leaves it with its host. -/
theorem Hosts.withComputer (h : c.Hosts platform computer) (hsame : computer.SameSetup computer') :
    (c.withComputer computer').Hosts platform computer' where
  work_eq := rfl
  config_eq := hsame.config_eq.trans h.config_eq
  capacity_eq := hsame.capacity_eq.trans h.capacity_eq
  sink_eq := hsame.sink_eq.trans h.sink_eq
  assembled := h.assembled.of_sameSetup hsame

theorem Hosts.runFrame_eq (h : c.Hosts platform computer) :
    c.runFrame = computer.runFrame.lift c.withComputer .halted := by
  rw [runFrame, h.work_eq]

theorem Hosts.step_eq (h : c.Hosts platform computer) :
    c.step = computer.step.lift c.withComputer .halted := by
  rw [step, h.work_eq]

theorem Hosts.softReset_eq (h : c.Hosts platform computer) :
    c.softReset = (Outcome.noted c .softReset).andThen fun c ↦
      computer.reset.lift c.withComputer .halted := by
  simp only [softReset, h.work_eq]

theorem Hosts.softReset (h : c.Hosts platform computer) :
    ∃ computer', c.softReset.state.Hosts platform computer' := by
  rw [h.softReset_eq, Outcome.andThen_of_none rfl]
  exact ⟨_, h.withComputer computer.sameSetup_reset⟩

/-- A change of the keypad leaves everything else, also one that is refused. -/
theorem Hosts.changeKeypad (h : c.Hosts platform computer) (pad : Except HostError Keypad) :
    ∃ computer', (c.changeKeypad pad).state.Hosts platform computer' := by
  rcases pad with e | pad
  · exact ⟨computer, h⟩
  · refine ⟨{ computer with keypad := pad }, ?_⟩
    simp only [Console.changeKeypad, setKeypad, h.work_eq]
    exact h.withComputer ⟨rfl, rfl, rfl, rfl, rfl⟩

theorem Hosts.handle (h : c.Hosts platform computer) (e : Event) :
    ∃ computer', (c.handle e).state.Hosts platform computer' := by
  rcases e with key | key | - | -
  · rw [Console.handle]
    split
    · -- The key that resets; with a computer there is something to be reset.
      split
      · exact h.softReset
      · exact ⟨computer, h⟩
    · split
      · exact ⟨computer, h.work_eq, h.config_eq, h.capacity_eq, h.sink_eq, h.assembled⟩
      · split
        · exact h.changeKeypad _
        · exact ⟨computer, h⟩
  · rw [Console.handle]
    split
    · exact h.changeKeypad _
    · exact ⟨computer, h⟩
  · exact ⟨computer, h⟩
  · exact ⟨computer, h⟩

/-- **No request but a load takes the computer away**, however it ends. -/
theorem Hosts.serve (h : c.Hosts platform computer) {request : Request}
    (hload : request.isLoad = false) :
    ∃ computer', (c.serve request).state.Hosts platform computer' := by
  cases request with
  | loadBytes | loadFile => exact nomatch hload
  | frame =>
    rw [Console.serve, h.runFrame_eq]
    exact ⟨_, h.withComputer (computer.sameSetup_steps _)⟩
  | step =>
    rw [Console.serve, h.step_eq]
    exact ⟨_, h.withComputer computer.sameSetup_step⟩
  | softReset => exact h.softReset
  | event e => exact h.handle e
  | press code => exact h.changeKeypad _
  | release code => exact h.changeKeypad _
  | moveClock d =>
    refine ⟨{ computer with clock := computer.clock.advance d }, ?_⟩
    simp only [Console.serve, Outcome.done, advance, h.work_eq]
    exact h.withComputer ⟨rfl, rfl, rfl, rfl, rfl⟩
  | setSink sink =>
    refine ⟨computer.setSink sink, ?_⟩
    simp only [Console.serve, Outcome.done, setSink, h.work_eq]
    exact ⟨rfl, h.config_eq, h.capacity_eq, rfl, ⟨rfl, h.assembled.period_eq⟩⟩
  | setDebug on => exact ⟨computer, h.work_eq, h.config_eq, h.capacity_eq, h.sink_eq, h.assembled⟩

/-- By induction on the requests. -/
theorem Hosts.after (h : c.Hosts platform computer) {requests : List Request}
    (hload : ∀ request ∈ requests, request.isLoad = false) :
    ∃ computer', (c.after requests).Hosts platform computer' := by
  induction requests generalizing c computer with
  | nil => exact ⟨computer, h⟩
  | cons request rest ih =>
    obtain ⟨hfirst, hrest⟩ := List.forall_mem_cons.1 hload
    obtain ⟨computer', h'⟩ := h.serve hfirst
    exact ih h' hrest

/-! ### Loading -/

/-- The memory of a platform with a program in it and nothing else, and what kept the program
out. -/
def image (program : List UInt8) (platform : Platform) : Memory × Option Fault.Cause :=
  (Memory.blank platform.memorySize).load platform.programStart program

theorem capacity_image (program : List UInt8) (platform : Platform) :
    (image program platform).1.capacity = platform.memorySize :=
  Memory.capacity_load _ _ _

theorem memorySize_ge (platform : Platform) : 80 ≤ (platform.memorySize : Int) := by
  rcases platform with - | -
  · decide
  · decide

/-- A program that fits is put into memory, and a computer is switched on over it. -/
theorem loadBytes_of_fits {program : List UInt8} (hfits : (image program platform).2 = none) :
    c.loadBytes program platform =
      (Outcome.noted c.unload (.loaded program.length)).andThen fun c ↦
        c.switchOn (image program platform).1 platform := by
  rcases hrun : image program platform with ⟨memory, cause⟩
  rw [hrun] at hfits
  cases hfits
  rw [image] at hrun
  simp only [loadBytes, hrun]

/-- **With a clock that answers twice, a program that fits is loaded.** -/
theorem loadBytes_eq {program : List UInt8} (hfits : (image program platform).2 = none)
    {first now : Binary64} (hfirst : c.clock.now = .ok first) (hnow : c.clock.tick.now = .ok now) :
    c.loadBytes program platform =
      ⟨c.withComputer (.fresh (c.config platform) (image program platform).1 c.keypad c.sink
          c.clock.tick.tick now),
        .notice (.loaded program.length) :: Signal.tell c.sink false, none⟩ := by
  have hcap : 80 ≤ (image program platform).1.capacity := by
    rw [capacity_image]
    exact memorySize_ge platform
  have hboot : Computer.boot (c.unload.config platform) (image program platform).1 c.unload.screen
      c.unload.keypad c.unload.sink c.unload.clock = _ :=
    Computer.boot_eq_fresh hcap hfirst hnow c.screen c.keypad c.sink
  rw [loadBytes_of_fits hfits, Outcome.andThen_of_none rfl]
  simp only [Outcome.noted, switchOn, hboot]
  rfl

/-- A program that does not fit is not loaded. -/
theorem fits_of_loadBytes {program : List UInt8} (h : (c.loadBytes program platform).halt = none) :
    (image program platform).2 = none := by
  rcases hrun : image program platform with ⟨memory, - | cause⟩
  · rfl
  · rw [image] at hrun
    simp only [loadBytes, hrun] at h
    exact nomatch h

/-- **A load that succeeds** has found a clock that answers twice. -/
theorem readings_of_loadBytes {program : List UInt8}
    (h : (c.loadBytes program platform).halt = none) :
    ∃ first now, c.clock.now = .ok first ∧ c.clock.tick.now = .ok now := by
  rw [loadBytes_of_fits (fits_of_loadBytes h), Outcome.andThen_of_none rfl] at h
  simp only [Outcome.noted, switchOn] at h
  split at h
  · exact nomatch h
  · rename_i booted hboot
    split at h
    · rename_i hdone
      exact (Computer.readings_of_boot hboot hdone).2
    · exact nomatch h

/-- **And it leaves a computer in its first moment.** -/
theorem hosts_of_loadBytes {program : List UInt8} (h : (c.loadBytes program platform).halt = none) :
    ∃ clock now, (c.loadBytes program platform).state.Hosts platform
      (.fresh (c.config platform) (image program platform).1 c.keypad c.sink clock now) := by
  obtain ⟨first, now, hfirst, hnow⟩ := readings_of_loadBytes h
  rw [loadBytes_eq (fits_of_loadBytes h) hfirst hnow]
  exact ⟨_, now, rfl, rfl, (Computer.capacity_fresh _ _ _ _ _ _).trans (capacity_image _ _), rfl,
    Computer.assembled_fresh _ _ _ _ _ _⟩

end ChipEight.Console
