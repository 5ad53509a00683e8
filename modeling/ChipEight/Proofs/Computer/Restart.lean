import ChipEight.Proofs.Computer.Background
import ChipEight.Proofs.Computer.Reached

/-!
# Starting again

To be switched on is to be put together and then reset, and a reset leaves nothing of what was
before it. `fresh` is the computer that both come to, written out part by part: **no register, flag
or pixel of the old run is in it**, and of the old memory there are the bytes behind the font
(`reset_eq_fresh`, `boot_eq_fresh`). So a reset cannot be told from switching on a new computer over
the same parts (`reset_eq_boot`), but for the readings that the new one has taken from its clock.

A reset takes on trust what a computer was put together from, among it the period of its timer and
the sink that the timer tells. No request changes the one, and the other changes only together with
the sink of the computer (`Assembled.after`).
-/

namespace ChipEight

namespace Memory

variable {m : Memory}

/-- **The font is written over the first eighty bytes**, and over no others. -/
theorem read_load_font (h : 80 ≤ m.capacity) (a : Int) :
    (m.load Font.start Font.sprites).1.read a =
      if 0 ≤ a ∧ a < 80 then .ok (Font.sprites.getD a.toNat 0) else m.read a := by
  have hlength : Font.sprites.length = 80 := Font.length_sprites
  by_cases hfont : 0 ≤ a ∧ a < 80
  · obtain ⟨k, rfl⟩ := Int.eq_ofNat_of_zero_le hfont.1
    have hk : k < Font.sprites.length := by omega
    have hread : (m.load Font.start Font.sprites).1.read (Font.start + k) = .ok Font.sprites[k] :=
      read_load_inside (Int.natCast_nonneg _) hk (by rw [Font.start]; omega)
    rw [if_pos hfont, Int.toNat_natCast, List.getD_eq_getElem?_getD, List.getElem?_eq_getElem hk,
      Option.getD_some, ← hread, Font.start, Int.natCast_zero, Int.zero_add]
  · rw [if_neg hfont]
    refine read_load_outside ?_
    rw [Font.start, hlength]
    omega

/-- So two memories with the same bytes behind the font become the same. -/
theorem load_font_congr {m' : Memory} (hcap : m.capacity = m'.capacity) (hroom : 80 ≤ m.capacity)
    (h : ∀ a, 80 ≤ a → m.read a = m'.read a) :
    (m.load Font.start Font.sprites).1 = (m'.load Font.start Font.sprites).1 := by
  have hsame : (m.load Font.start Font.sprites).1.capacity =
      (m'.load Font.start Font.sprites).1.capacity := by
    rw [capacity_load, capacity_load, hcap]
  refine eq_of_read_eq hsame fun a hin ↦ ?_
  rw [read_load_font hroom, read_load_font (hcap ▸ hroom)]
  by_cases hfont : 0 ≤ a ∧ a < 80
  · rw [if_pos hfont, if_pos hfont]
  · have hnonneg := hin.1
    rw [if_neg hfont, if_neg hfont, h a (by omega)]

end Memory

namespace Computer

variable {c c' : Computer}

/-! ### The fresh computer -/

/-- The computer at the beginning of a program, its clock behind the reading `now`. -/
def fresh (config : Config) (memory : Memory) (keypad : Keypad) (sink : Option Sink)
    (clock : Clock Binary64) (now : Binary64) : Computer where
  config := config
  memory := (memory.load Font.start Font.sprites).1
  screen := .standard
  keypad := keypad
  clock := clock
  registers := .initial config.platform.programStart
  random := .seeded config.seed
  timer := .started Timer.standardPeriod now
  sink := sink
  timerSink := sink
  hires := false
  waiting := false
  lastOpcode := 0
  lastFault := none

/-- The computer with another clock. -/
def withClock (c : Computer) (clock : Clock Binary64) : Computer := { c with clock := clock }

/-- A computer as it is put together: the timer has the standard period, and tells the sink that the
computer has. -/
structure Assembled (c : Computer) : Prop where
  timerSink_eq : c.timerSink = c.sink
  period_eq : c.timer.period = Timer.standardPeriod

theorem assembled_fresh (config : Config) (memory : Memory) (keypad : Keypad) (sink : Option Sink)
    (clock : Clock Binary64) (now : Binary64) :
    (fresh config memory keypad sink clock now).Assembled where
  timerSink_eq := rfl
  period_eq := by simp only [fresh, Timer.started]

theorem capacity_fresh (config : Config) (memory : Memory) (keypad : Keypad) (sink : Option Sink)
    (clock : Clock Binary64) (now : Binary64) :
    (fresh config memory keypad sink clock now).memory.capacity = memory.capacity :=
  Memory.capacity_load _ _ _

/-- **A reset leads to the fresh computer from anywhere.** -/
theorem reset_eq_fresh (h : c.Assembled) (hcap : 80 ≤ c.memory.capacity) {now : Binary64}
    (hnow : c.clock.now = .ok now) :
    c.reset = ⟨fresh c.config c.memory c.keypad c.sink c.clock.tick now,
      Signal.tell c.sink false, none⟩ := by
  simp only [reset_eq hcap, hnow, restarted, rewound, Timer.reset, h.period_eq, h.timerSink_eq]
  rfl

/-- Before its first reset a computer has all its parts, and has read the clock once. -/
theorem exists_unstarted_eq (config : Config) (memory : Memory) (screen : Screen) (keypad : Keypad)
    (sink : Option Sink) {clock : Clock Binary64} {first : Binary64} (h : clock.now = .ok first) :
    ∃ c : Computer, unstarted config memory screen keypad sink clock = .ok c ∧ c.Assembled ∧
      c.config = config ∧ c.memory = memory ∧ c.keypad = keypad ∧ c.sink = sink ∧
      c.clock = clock.tick := by
  rw [unstarted, h]
  refine ⟨_, rfl, ⟨rfl, ?_⟩, rfl, rfl, rfl, rfl, rfl⟩
  simp only [Timer.started]

/-- **And so does switching on.** The old pixels of the screen are not looked at, and the first of
the two readings is forgotten. -/
theorem boot_eq_fresh {config : Config} {memory : Memory} (hcap : 80 ≤ memory.capacity)
    {clock : Clock Binary64} {first now : Binary64} (hfirst : clock.now = .ok first)
    (hnow : clock.tick.now = .ok now) (screen : Screen) (keypad : Keypad) (sink : Option Sink) :
    boot config memory screen keypad sink clock =
      .ok ⟨fresh config memory keypad sink clock.tick.tick now, Signal.tell sink false, none⟩ := by
  obtain ⟨c, hc, hassembled, rfl, rfl, rfl, rfl, hclock⟩ :=
    exists_unstarted_eq config memory screen keypad sink hfirst
  rw [← hclock] at hnow
  rw [boot, hc, ← hclock, ← reset_eq_fresh hassembled hcap hnow]
  rfl

/-- A computer is there to be used only if there was room for the font and the clock has answered
twice. -/
theorem readings_of_boot {config : Config} {memory : Memory} {screen : Screen} {keypad : Keypad}
    {sink : Option Sink} {clock : Clock Binary64} {booted : Outcome Halt Computer}
    (hboot : boot config memory screen keypad sink clock = .ok booted)
    (hdone : booted.halt = none) :
    80 ≤ memory.capacity ∧ ∃ first now, clock.now = .ok first ∧ clock.tick.now = .ok now := by
  rcases hfirst : clock.now with e | first
  · rw [boot, unstarted, hfirst] at hboot
    cases hboot
  · obtain ⟨c, hc, -, -, rfl, -, -, hclock⟩ :=
      exists_unstarted_eq config memory screen keypad sink hfirst
    rw [boot, hc] at hboot
    cases hboot
    obtain ⟨hcap, now, hnow, -⟩ := exists_reset_eq hdone
    exact ⟨hcap, first, now, rfl, hclock ▸ hnow⟩

/-- **Such a computer is a fresh one.** -/
theorem exists_eq_fresh_of_boot {config : Config} {memory : Memory} {screen : Screen}
    {keypad : Keypad} {sink : Option Sink} {clock : Clock Binary64}
    {booted : Outcome Halt Computer}
    (hboot : boot config memory screen keypad sink clock = .ok booted)
    (hdone : booted.halt = none) :
    80 ≤ memory.capacity ∧ ∃ clock' now,
      booted = ⟨fresh config memory keypad sink clock' now, Signal.tell sink false, none⟩ := by
  obtain ⟨hcap, first, now, hfirst, hnow⟩ := readings_of_boot hboot hdone
  rw [boot_eq_fresh hcap hfirst hnow] at hboot
  cases hboot
  exact ⟨hcap, clock.tick.tick, now, rfl⟩

/-- **A reset is to be switched on again**, over the same memory, screen, keypad and sink, if the
last reading of the clock is the same. -/
theorem reset_eq_boot (h : c.Assembled) (hcap : 80 ≤ c.memory.capacity) {clock : Clock Binary64}
    {first now : Binary64} (hreset : c.clock.now = .ok now) (hfirst : clock.now = .ok first)
    (hnow : clock.tick.now = .ok now) :
    boot c.config c.memory c.screen c.keypad c.sink clock =
      .ok (c.reset.onState (·.withClock clock.tick.tick)) := by
  rw [boot_eq_fresh hcap hfirst hnow, reset_eq_fresh h hcap hreset]
  rfl

/-- A clock that stands still. -/
def stillClock : Clock Binary64 := ⟨fun _ _ ↦ .ok 0, 0, 0⟩

/-- A computer without any options, about to begin with what is in its memory. -/
def starting (memory : Memory) : Computer :=
  fresh {} memory .allUp (some 0) stillClock.tick.tick 0

theorem boot_eq_starting {memory : Memory} (hcap : 80 ≤ memory.capacity) :
    boot {} memory .standard .allUp (some 0) stillClock =
      .ok ⟨starting memory, Signal.tell (some 0) false, none⟩ :=
  boot_eq_fresh hcap rfl rfl .standard .allUp (some 0)

theorem reached_starting {memory : Memory} (hcap : 80 ≤ memory.capacity) :
    (starting memory).Reached :=
  reached_of_boot (boot_eq_starting hcap) rfl

/-! ### What stays through everything -/

/-- What a computer was put together from is the same. -/
structure SameSetup (c c' : Computer) : Prop where
  config_eq : c'.config = c.config
  sink_eq : c'.sink = c.sink
  timerSink_eq : c'.timerSink = c.timerSink
  period_eq : c'.timer.period = c.timer.period
  capacity_eq : c'.memory.capacity = c.memory.capacity

theorem SameSetup.refl (c : Computer) : c.SameSetup c := ⟨rfl, rfl, rfl, rfl, rfl⟩

theorem SameSetup.trans {c'' : Computer} (h : c.SameSetup c') (h' : c'.SameSetup c'') :
    c.SameSetup c'' where
  config_eq := h'.config_eq.trans h.config_eq
  sink_eq := h'.sink_eq.trans h.sink_eq
  timerSink_eq := h'.timerSink_eq.trans h.timerSink_eq
  period_eq := h'.period_eq.trans h.period_eq
  capacity_eq := h'.capacity_eq.trans h.capacity_eq

theorem LeavesAlone.sameSetup (h : c.LeavesAlone c') : c.SameSetup c' :=
  ⟨h.config_eq, h.sink_eq, h.timerSink_eq, by rw [h.timer_eq], h.capacity_eq⟩

/-- The timer takes its own period over. -/
theorem sameSetup_timed (c : Computer) : c.SameSetup c.timed := by
  rw [timed]
  split
  · exact .refl c
  · rcases hnow : c.clock.now with e | now
    · simp only [updateTimer, Countdown.update, countdown, hnow]
      exact ⟨rfl, rfl, rfl, rfl, rfl⟩
    · simp only [updateTimer, Countdown.update, countdown, hnow]
      exact ⟨rfl, rfl, rfl, rfl, rfl⟩

theorem sameSetup_step (c : Computer) : c.SameSetup c.step.state := by
  refine step_preserves (P := c.SameSetup) ?_ ?_ ?_ (.refl c)
  · intro c' opcode fault h
    exact h.trans ⟨rfl, rfl, rfl, rfl, rfl⟩
  · intro c' opcode i h
    exact h.trans (c'.perform_leavesAlone opcode i).sameSetup
  · intro c' h
    exact h.trans c'.sameSetup_timed

theorem sameSetup_steps (c : Computer) (n : Nat) : c.SameSetup (steps n c).state :=
  steps_preserves (P := c.SameSetup) (fun c' h ↦ h.trans c'.sameSetup_step) n (.refl c)

/-- A reset takes it over as well, **also one that is cut short**. -/
theorem sameSetup_reset (c : Computer) : c.SameSetup c.reset.state := by
  have hcap := Memory.capacity_load c.memory Font.start Font.sprites
  rcases hrun : c.memory.load Font.start Font.sprites with ⟨memory, - | cause⟩
  · rw [hrun] at hcap
    simp only [reset, hrun]
    split
    · exact ⟨rfl, rfl, rfl, rfl, hcap⟩
    · exact ⟨rfl, rfl, rfl, rfl, hcap⟩
  · rw [hrun] at hcap
    simp only [reset, hrun]
    exact ⟨rfl, rfl, rfl, rfl, hcap⟩

theorem Assembled.of_sameSetup (h : c.Assembled) (hsame : c.SameSetup c') : c'.Assembled :=
  ⟨by rw [hsame.timerSink_eq, hsame.sink_eq, h.timerSink_eq], hsame.period_eq.trans h.period_eq⟩

/-- **The capacity of a memory is for good.** -/
theorem capacity_after (c : Computer) (requests : List Request) :
    (c.after requests).memory.capacity = c.memory.capacity := by
  refine after_preserves (P := fun c' ↦ c'.memory.capacity = c.memory.capacity)
    ?_ ?_ ?_ ?_ ?_ requests rfl
  · intro c' h
    exact c'.sameSetup_step.capacity_eq.trans h
  · intro c' h
    exact c'.sameSetup_reset.capacity_eq.trans h
  · intro c' keypad h
    exact h
  · intro c' clock h
    exact h
  · intro c' sink h
    exact h

/-- **Every computer is assembled, at every moment of its history.** -/
theorem Assembled.after (h : c.Assembled) (requests : List Request) :
    (c.after requests).Assembled := by
  refine after_preserves (P := Assembled) ?_ ?_ ?_ ?_ ?_ requests h
  · intro c h
    exact h.of_sameSetup c.sameSetup_step
  · intro c h
    exact h.of_sameSetup c.sameSetup_reset
  · intro c keypad h
    exact ⟨h.timerSink_eq, h.period_eq⟩
  · intro c clock h
    exact ⟨h.timerSink_eq, h.period_eq⟩
  · intro c sink h
    exact ⟨rfl, h.period_eq⟩

/-- It begins with being switched on. -/
theorem assembled_of_boot {config : Config} {memory : Memory} {screen : Screen} {keypad : Keypad}
    {sink : Option Sink} {clock : Clock Binary64} {booted : Outcome Halt Computer}
    (hboot : boot config memory screen keypad sink clock = .ok booted)
    (hdone : booted.halt = none) :
    booted.state.Assembled ∧ booted.state.memory.capacity = memory.capacity := by
  obtain ⟨-, clock', now, rfl⟩ := exists_eq_fresh_of_boot hboot hdone
  exact ⟨assembled_fresh _ _ _ _ _ _, capacity_fresh _ _ _ _ _ _⟩

end Computer

end ChipEight
