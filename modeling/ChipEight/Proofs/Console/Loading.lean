import ChipEight.Proofs.Console.History

/-!
# Loading

A load takes the old program away, and then it either puts a computer there or nothing. **The size
of the program decides** (`fits_iff`), once the clock has given the two readings that a computer
needs.

What a successful load leaves is put together from the program and from what outlives programs: the
keypad, the sink, the clock and the settings. So it is the same for every console with these, also
for one that has never run anything (`loadBytes_untouched`), and the computer in it stands at the
very beginning (`AtOutset`). A program that is too large has been written to a memory that nobody
keeps, and of the console **the computer alone is missing** (`loadBytes_of_large`).

A clock without an answer is a third way for a load to end. It is no matter of the program, and the
program is in memory by then.
-/

namespace ChipEight

/-- How many bytes a program can have: those from its start to the end of the memory. -/
def Platform.room : Platform → Nat
  | .standard => 4096 - 0x200
  | .eti660 => 2048 - 0x600

theorem Platform.programStart_add_room (platform : Platform) :
    platform.programStart + platform.room = platform.memorySize := by
  cases platform <;> rfl

namespace Console

variable {c : Console} {platform : Platform} {program : List UInt8}

/-! ### What fits -/

/-- **A program fits exactly if it is no longer than the room for it.** -/
theorem fits_iff : (image program platform).2 = none ↔ program.length ≤ platform.room := by
  have hroom := platform.programStart_add_room
  have hfault : (image program platform).2 = _ :=
    Memory.fault_load (Int.natCast_nonneg platform.programStart) program
  rw [hfault, Memory.blockFault]
  show (if program.length = 0 ∨ (platform.programStart + program.length : Int) ≤
    platform.memorySize then none else _) = none ↔ _
  split
  · exact iff_of_true rfl (by omega)
  · exact iff_of_false (Option.some_ne_none _) (by omega)

/-- A program that does not fit leaves everything but the computer as it was. -/
theorem loadBytes_of_large (h : platform.room < program.length) :
    c.loadBytes program platform =
      ⟨c.unload, [], some (.tooLarge program.length platform.programStart)⟩ := by
  rcases hrun : image program platform with ⟨memory, - | cause⟩
  · have hfits := fits_iff.1 (congrArg Prod.snd hrun)
    omega
  · rw [image] at hrun
    simp only [loadBytes, hrun]

/-- **A load succeeds exactly if the program fits**, given the readings of the clock that switching
on takes. -/
theorem halt_loadBytes_eq_none_iff :
    (c.loadBytes program platform).halt = none ↔
      program.length ≤ platform.room ∧
        ∃ first now, c.clock.now = .ok first ∧ c.clock.tick.now = .ok now := by
  constructor
  · intro h
    exact ⟨fits_iff.1 (fits_of_loadBytes h), readings_of_loadBytes h⟩
  · rintro ⟨hroom, first, now, hfirst, hnow⟩
    rw [loadBytes_eq (fits_iff.2 hroom) hfirst hnow]

/-! ### What is loaded -/

/-- The memory that a program begins with: the font, the program at its start and nothing else. -/
theorem read_image (hfits : program.length ≤ platform.room) (a : Int) :
    ((image program platform).1.load Font.start Font.sprites).1.read a =
      if 0 ≤ a ∧ a < 80 then .ok (Font.sprites.getD a.toNat 0)
      else if platform.programStart ≤ a ∧ a < platform.programStart + program.length then
        .ok (program.getD (a - platform.programStart).toNat 0)
      else if 0 ≤ a ∧ a < platform.memorySize then .ok 0
      else .error (.outOfBounds a platform.memorySize) := by
  have hroom := platform.programStart_add_room
  rw [Memory.read_load_font (capacity_image program platform ▸ memorySize_ge platform)]
  by_cases hfont : 0 ≤ a ∧ a < 80
  · rw [if_pos hfont, if_pos hfont]
  rw [if_neg hfont, if_neg hfont, image]
  by_cases hin : platform.programStart ≤ a ∧ a < platform.programStart + program.length
  · obtain ⟨k, hk⟩ := Int.le.dest hin.1
    have hlt : k < program.length := by omega
    rw [if_pos hin, ← hk, Memory.read_load_inside (Int.natCast_nonneg _) hlt
      (show (platform.programStart + k : Int) < platform.memorySize by omega),
      show (platform.programStart + k - platform.programStart : Int) = k by omega,
      Int.toNat_natCast, List.getD_eq_getElem?_getD, List.getElem?_eq_getElem hlt, Option.getD_some]
  · rw [if_neg hin, Memory.read_load_outside (by omega), Memory.read_blank]

/-- The computer is at the outset of a program: its memory holds the font, the program and zeros,
and everything else about it is as a computer begins. -/
structure AtOutset (program : List UInt8) (platform : Platform) (now : Binary64)
    (computer : Computer) : Prop where
  capacity_eq : computer.memory.capacity = platform.memorySize
  read_eq : ∀ a, computer.memory.read a =
    if 0 ≤ a ∧ a < 80 then .ok (Font.sprites.getD a.toNat 0)
    else if platform.programStart ≤ a ∧ a < platform.programStart + program.length then
      .ok (program.getD (a - platform.programStart).toNat 0)
    else if 0 ≤ a ∧ a < platform.memorySize then .ok 0
    else .error (.outOfBounds a platform.memorySize)
  registers_eq : computer.registers = .initial platform.programStart
  timer_eq : computer.timer = .started Timer.standardPeriod now
  screen_eq : computer.screen = .standard
  hires_eq : computer.hires = false
  waiting_eq : computer.waiting = false
  lastOpcode_eq : computer.lastOpcode = 0
  lastFault_eq : computer.lastFault = none

theorem atOutset_fresh (hfits : program.length ≤ platform.room) (keypad : Keypad)
    (sink : Option Sink) (clock : Clock Binary64) (now : Binary64) :
    AtOutset program platform now
      (.fresh (c.config platform) (image program platform).1 keypad sink clock now) where
  capacity_eq := (Computer.capacity_fresh _ _ _ _ _ _).trans (capacity_image program platform)
  read_eq := read_image hfits
  registers_eq := rfl
  timer_eq := rfl
  screen_eq := rfl
  hires_eq := rfl
  waiting_eq := rfl
  lastOpcode_eq := rfl
  lastFault_eq := rfl

/-- A console with the same settings, keypad and clock that has never run a program. -/
def untouched (c : Console) : Console := { c with work := .idle .standard c.keypad c.clock none }

/-- **A load that succeeds leaves nothing of what was before it.** -/
theorem loadBytes_untouched (h : (c.loadBytes program platform).halt = none) :
    c.untouched.loadBytes program platform = c.loadBytes program platform := by
  obtain ⟨first, now, hfirst, hnow⟩ := readings_of_loadBytes h
  have hfits := fits_of_loadBytes h
  have hfirst' : c.untouched.clock.now = .ok first := hfirst
  rw [loadBytes_eq hfits hfirst hnow, loadBytes_eq hfits hfirst' hnow]
  rfl

/-- **Loading is all or nothing.** A program is loaded exactly if it has room, given that the clock
answers for the computer that is switched on. A console with a loaded program has nothing left of
what was before, and its computer is at the outset; the keypad, the overlay and the sink are as they
were, and the sink was told to be silent. A program without room leaves no program loaded and, with
the memory of the last one, everything else as it was: the clock is not read, and no signal is
sent. -/
theorem loading_all_or_nothing (c : Console) (program : List UInt8) (platform : Platform) :
    let o := c.loadBytes program platform
    (o.halt = none ↔ program.length ≤ platform.room ∧
        ∃ first now, c.clock.now = .ok first ∧ c.clock.tick.now = .ok now) ∧
      (o.halt = none →
        c.untouched.loadBytes program platform = o ∧
          (∃ computer now, o.state.work = .running computer ∧ c.clock.tick.now = .ok now ∧
            AtOutset program platform now computer) ∧
          o.state.keypad = c.keypad ∧ o.state.debug = c.debug ∧ o.state.sink = c.sink ∧
          o.signals.filterMap Signal.sound? = (Signal.tell c.sink false).filterMap Signal.sound?) ∧
      (platform.room < program.length →
        o.halt = some (.tooLarge program.length platform.programStart) ∧
          o.state.isLoaded = false ∧ o.state.memory? = c.memory? ∧ o.state.screen = c.screen ∧
          o.state.keypad = c.keypad ∧ o.state.debug = c.debug ∧ o.state.sink = c.sink ∧
          o.state.clock = c.clock ∧ o.signals = []) := by
  intro o
  refine ⟨halt_loadBytes_eq_none_iff, fun hdone ↦ ⟨loadBytes_untouched hdone, ?_⟩, fun hlarge ↦ ?_⟩
  · obtain ⟨hroom, first, now, hfirst, hnow⟩ := halt_loadBytes_eq_none_iff.1 hdone
    rw [show o = _ from loadBytes_eq (fits_iff.2 hroom) hfirst hnow]
    exact ⟨⟨_, now, rfl, hnow, atOutset_fresh hroom _ _ _ _⟩, rfl, rfl, rfl, rfl⟩
  · rw [show o = _ from loadBytes_of_large hlarge]
    exact ⟨rfl, rfl, rfl, rfl, rfl, rfl, rfl, rfl, rfl⟩

end Console

end ChipEight
