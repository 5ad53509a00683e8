import ChipEight.Proofs.Console.History

/-!
# Resetting and loading again

A program that has left its own bytes alone can be started again without being loaded again. The
memory that a load prepares differs from the one at hand only where the font goes, and **the font is
written over both** (`Hosts.softReset_eq_loadBytes`).

`reset_starts_anew` puts together what is said of a single computer and of a console. A reset of
either takes a reading of the clock, and switching on takes two; so the states that are compared
differ by their clocks, and the clock is named where it matters.
-/

namespace ChipEight

namespace Console

variable {c : Console} {platform : Platform} {computer : Computer} {program : List UInt8}

/-- The console with another clock. -/
def withClock (c : Console) (clock : Clock Binary64) : Console :=
  match c.work with
  | .idle screen keypad _ memory => { c with work := .idle screen keypad clock memory }
  | .running computer => { c with work := .running (computer.withClock clock) }

/-- The byte at an address, if there is a memory. -/
def byteAt (c : Console) (a : Int) : Option (Except Fault.Cause UInt8) := c.memory?.map (·.read a)

theorem byteAt_congr {c' : Console} (h : c'.memory? = c.memory?) (a : Int) :
    c'.byteAt a = c.byteAt a := by
  rw [byteAt, byteAt, h]

theorem Hosts.memory?_eq (h : c.Hosts platform computer) : c.memory? = some computer.memory := by
  rw [memory?, h.work_eq]

theorem Hosts.keypad_eq (h : c.Hosts platform computer) : c.keypad = computer.keypad := by
  rw [keypad, h.work_eq]

theorem Hosts.clock_eq (h : c.Hosts platform computer) : c.clock = computer.clock := by
  rw [clock, h.work_eq]

@[simp] theorem clock_withClock (c : Console) (clock : Clock Binary64) :
    (c.withClock clock).clock = clock := by
  rw [withClock]
  split <;> rfl

@[simp] theorem keypad_withClock (c : Console) (clock : Clock Binary64) :
    (c.withClock clock).keypad = c.keypad := by
  rcases hwork : c.work with ⟨screen, pad, old, memory⟩ | computer
  · simp only [withClock, keypad, hwork]
  · simp only [withClock, keypad, hwork, Computer.withClock]

@[simp] theorem withComputer_withClock (c : Console) (clock : Clock Binary64) :
    (c.withClock clock).withComputer = c.withComputer := by
  rw [withClock]
  split <;> rfl

@[simp] theorem config_withClock (c : Console) (clock : Clock Binary64) :
    (c.withClock clock).config = c.config := by
  rw [withClock]
  split <;> rfl

@[simp] theorem sink_withClock (c : Console) (clock : Clock Binary64) :
    (c.withClock clock).sink = c.sink := by
  rw [withClock]
  split <;> rfl

theorem Hosts.capacity_ge (h : c.Hosts platform computer) : 80 ≤ computer.memory.capacity :=
  h.capacity_eq ▸ memorySize_ge platform

/-- A reset of a hosted computer, written out. -/
theorem Hosts.softReset_eq_fresh (h : c.Hosts platform computer) {now : Binary64}
    (hnow : c.clock.now = .ok now) :
    c.softReset =
      ⟨c.withComputer (.fresh (c.config platform) computer.memory c.keypad c.sink c.clock.tick now),
        .notice .softReset :: Signal.tell c.sink false, none⟩ := by
  rw [h.clock_eq] at hnow
  rw [h.softReset_eq, Outcome.andThen_of_none rfl,
    Computer.reset_eq_fresh h.assembled h.capacity_ge hnow, h.config_eq, h.sink_eq, h.keypad_eq,
    h.clock_eq]
  rfl

/-- **A reset is to load the program again**, if its bytes are still there and the last reading of
the clock is the same. -/
theorem Hosts.softReset_eq_loadBytes (h : c.Hosts platform computer)
    (hfits : (image program platform).2 = none)
    (hkept : ∀ a, 80 ≤ a → computer.memory.read a = (image program platform).1.read a)
    {clock : Clock Binary64} {first now : Binary64} (hreset : c.clock.now = .ok now)
    (hfirst : clock.now = .ok first) (hnow : clock.tick.now = .ok now) :
    (c.withClock clock).loadBytes program platform =
      ⟨c.softReset.state.withClock clock.tick.tick,
        .notice (.loaded program.length) :: Signal.tell c.sink false, none⟩ := by
  have hcap := h.capacity_eq.trans (capacity_image program platform).symm
  have hmemory := Memory.load_font_congr hcap h.capacity_ge hkept
  have hfirst' : (c.withClock clock).clock.now = .ok first := by
    rw [clock_withClock, hfirst]
  have hnow' : (c.withClock clock).clock.tick.now = .ok now := by
    rw [clock_withClock, hnow]
  have hload := loadBytes_eq hfits hfirst' hnow'
  simp only [clock_withClock, keypad_withClock, withComputer_withClock, config_withClock,
    sink_withClock] at hload
  rw [hload, h.softReset_eq_fresh hreset]
  simp only [Computer.fresh, ← hmemory]
  rfl

/-- **Behind a load and any requests that are not loads**, a console whose bytes behind the font are
as they were loaded is reset and loaded again to the same end. The keypad, the overlay and the sink
are those that it has by then, not those of the first load. -/
theorem reload_eq_softReset {c₀ : Console} (hload : (c₀.loadBytes program platform).halt = none)
    {requests : List Request} (hrequests : ∀ request ∈ requests, request.isLoad = false) :
    let loaded := (c₀.loadBytes program platform).state
    let c := loaded.after requests
    (∀ a, 80 ≤ a → c.byteAt a = loaded.byteAt a) →
      ∀ clock first now, c.clock.now = .ok now → clock.now = .ok first → clock.tick.now = .ok now →
        let reloaded := (c.withClock clock).loadBytes program platform
        c.softReset.halt = none ∧ reloaded.halt = none ∧
          reloaded.state = c.softReset.state.withClock clock.tick.tick ∧
          reloaded.signals.filterMap Signal.sound? = c.softReset.signals.filterMap Signal.sound? ∧
          c.softReset.state.keypad = c.keypad ∧ c.softReset.state.debug = c.debug ∧
          c.softReset.state.sink = c.sink := by
  intro loaded c hkept clock first now hreset hfirst hnow reloaded
  obtain ⟨clock₀, now₀, hloaded⟩ := hosts_of_loadBytes hload
  obtain ⟨computer, hc⟩ := hloaded.after hrequests
  have hbytes : ∀ a, 80 ≤ a → computer.memory.read a = (image program platform).1.read a := by
    intro a ha
    have hsame := hkept a ha
    rw [byteAt, byteAt, hc.memory?_eq, hloaded.memory?_eq] at hsame
    have hread : computer.memory.read a = ((image program platform).1.load Font.start _).1.read a :=
      Option.some.inj hsame
    rw [hread, Memory.read_load_font (capacity_image program platform ▸ memorySize_ge platform),
      if_neg (by omega)]
  have hreloaded := hc.softReset_eq_loadBytes (fits_of_loadBytes hload) hbytes hreset hfirst hnow
  have hfresh := hc.softReset_eq_fresh hreset
  refine ⟨?_, ?_, ?_, ?_, ?_, ?_, ?_⟩
  · rw [hfresh]
  · exact congrArg Outcome.halt hreloaded
  · exact congrArg Outcome.state hreloaded
  · rw [show reloaded = _ from hreloaded, hfresh]
    rfl
  · rw [hfresh]
    rfl
  · rw [hfresh]
    rfl
  · rw [hfresh]
    rfl

/-- **A reset starts anew.** Every computer that was switched on is put together as it should be,
whatever has been asked of it. Such a computer, in any state, is reset to what switching on a
computer over the same parts leads to, given the same reading of the clock: the fresh computer, over
a memory of which the first eighty bytes are the font and the others as they were. And a console
that runs a program is reset to what loading the program again leads to, if the bytes behind the
font are still those that were loaded. -/
theorem reset_starts_anew :
    (∀ (config : Config) (memory : Memory) (screen : Screen) (keypad : Keypad)
        (sink : Option Sink) (clock : Clock Binary64) (booted : Outcome Halt Computer),
      Computer.boot config memory screen keypad sink clock = .ok booted → booted.halt = none →
        ∀ requests, (booted.state.after requests).Assembled ∧
          80 ≤ (booted.state.after requests).memory.capacity) ∧
    (∀ c : Computer, c.Assembled → 80 ≤ c.memory.capacity →
      ∀ clock first now, c.clock.now = .ok now → clock.now = .ok first → clock.tick.now = .ok now →
        Computer.boot c.config c.memory c.screen c.keypad c.sink clock =
            .ok (c.reset.onState (·.withClock clock.tick.tick)) ∧
          c.reset.halt = none ∧
          c.reset.state = .fresh c.config c.memory c.keypad c.sink c.clock.tick now ∧
          ∀ a, c.reset.state.memory.read a =
            if 0 ≤ a ∧ a < 80 then .ok (Font.sprites.getD a.toNat 0) else c.memory.read a) ∧
    (∀ (c₀ : Console) (program : List UInt8) (platform : Platform) (requests : List Request),
      (c₀.loadBytes program platform).halt = none →
      (∀ request ∈ requests, request.isLoad = false) →
      let loaded := (c₀.loadBytes program platform).state
      let c := loaded.after requests
      (∀ a, 80 ≤ a → c.byteAt a = loaded.byteAt a) →
        ∀ clock first now, c.clock.now = .ok now → clock.now = .ok first →
          clock.tick.now = .ok now →
          let reloaded := (c.withClock clock).loadBytes program platform
          c.softReset.halt = none ∧ reloaded.halt = none ∧
            reloaded.state = c.softReset.state.withClock clock.tick.tick ∧
            reloaded.signals.filterMap Signal.sound? =
              c.softReset.signals.filterMap Signal.sound? ∧
            c.softReset.state.keypad = c.keypad ∧ c.softReset.state.debug = c.debug ∧
            c.softReset.state.sink = c.sink) := by
  refine ⟨?_, ?_, ?_⟩
  · intro config memory screen keypad sink clock booted hboot hdone requests
    obtain ⟨hassembled, hcap⟩ := Computer.assembled_of_boot hboot hdone
    obtain ⟨hroom, -⟩ := Computer.readings_of_boot hboot hdone
    exact ⟨hassembled.after requests, by rw [Computer.capacity_after, hcap]; exact hroom⟩
  · intro c hassembled hcap clock first now hreset hfirst hnow
    have hfresh := Computer.reset_eq_fresh hassembled hcap hreset
    refine ⟨Computer.reset_eq_boot hassembled hcap hreset hfirst hnow, ?_, ?_, fun a ↦ ?_⟩
    · rw [hfresh]
    · rw [hfresh]
    · rw [hfresh]
      exact Memory.read_load_font hcap a
  · intro c₀ program platform requests hload hrequests
    exact reload_eq_softReset hload hrequests

/-- A computer of eighty bytes in the high-resolution mode that waits for a key. -/
def stalled : Computer :=
  { Computer.plain (.initial 78) (.blank 80) with
    screen := .highResolution
    hires := true
    waiting := true }

/-- A console of the smaller platform with a program that jumps to itself. -/
def looping : Outcome Failure Console :=
  (empty (some 0) Computer.stillClock).loadBytes [0x16, 0x00] .eti660

set_option maxRecDepth 100000 in
/-- The console's program has run, a key has gone down and the sink has been replaced. A reset keeps
both, as another load would. -/
theorem reset_starts_anew_looping :
    ((Computer.starting (.blank 80)).after [.step, .reset, .step]).Assembled ∧
      Computer.boot stalled.config stalled.memory stalled.screen stalled.keypad stalled.sink
          Computer.stillClock =
        .ok (stalled.reset.onState (·.withClock Computer.stillClock.tick.tick)) ∧
      ∃ c : Console, c = looping.state.after [.step, .press 3, .setSink (some 1), .setDebug true] ∧
        c.softReset.halt = none ∧
        ((c.withClock Computer.stillClock).loadBytes [0x16, 0x00] .eti660).state =
          c.softReset.state.withClock Computer.stillClock.tick.tick ∧
        c.softReset.state.keypad = c.keypad ∧ c.softReset.state.sink = some 1 := by
  have hload : looping.halt = none := by decide +kernel
  have hmemory :
      (looping.state.after [.step, .press 3, .setSink (some 1), .setDebug true]).memory? =
        looping.state.memory? := rfl
  have hstalled : stalled.Assembled :=
    ⟨rfl, by simp only [stalled, Computer.plain, Timer.started]⟩
  have hboot := Computer.boot_eq_starting (by decide : 80 ≤ (Memory.blank 80).capacity)
  obtain ⟨hassembled, hanew, hreload⟩ := reset_starts_anew
  obtain ⟨hagain, -⟩ := hanew stalled hstalled (by decide) Computer.stillClock 0 0 rfl rfl rfl
  obtain ⟨hreset, -, hsame, -, hkeypad, -, hsink⟩ :=
    hreload (empty (some 0) Computer.stillClock) [0x16, 0x00] .eti660
      [.step, .press 3, .setSink (some 1), .setDebug true] hload (by decide)
      (fun a _ ↦ byteAt_congr hmemory a) Computer.stillClock 0 0 rfl rfl rfl
  exact ⟨(hassembled _ _ _ _ _ _ _ hboot rfl [.step, .reset, .step]).1, hagain, _, rfl, hreset,
    hsame, hkeypad, hsink⟩

end Console

end ChipEight
