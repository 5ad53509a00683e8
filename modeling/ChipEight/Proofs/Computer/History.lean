import ChipEight.Proofs.Computer.Stepping

/-!
# Histories of a computer

A computer is used by **requests**: it is stepped, run for a frame or reset, keys go up and down,
its clock is moved and its sink replaced. A history is any list of them, and it goes on after a
request that was halted, from whatever state the halt has left. `after_preserves` is the induction
over histories: what a step, a reset and the three changes from outside keep, every history keeps.

The main statement is `wellFormed_after_boot`. A computer that was switched on over at least eighty
bytes of memory **never leaves its ranges**, and from wherever a history has brought it, a step ends
or faults. The host has no part in it, with the one exception of a clock that has no answer.
-/

namespace ChipEight.Computer

variable {c : Computer}

/-! ### Requests -/

/-- Something that is asked of a computer from outside. -/
inductive Request where
  | step
  | frame
  | reset
  | press (code : Int)
  | release (code : Int)
  | moveClock (d : Int)
  | setSink (sink : Option Sink)
  deriving DecidableEq, Repr

/-- The computer with another state of its keypad, if there is one. -/
def withKeypad (c : Computer) : Except HostError Keypad → Outcome Halt Computer
  | .ok keypad => .done { c with keypad := keypad }
  | .error e => .refused c e

/-- What a request does. -/
def serve (c : Computer) : Request → Outcome Halt Computer
  | .step => c.step
  | .frame => c.runFrame
  | .reset => c.reset
  | .press code => c.withKeypad (c.keypad.press code)
  | .release code => c.withKeypad (c.keypad.release code)
  | .moveClock d => .done { c with clock := c.clock.advance d }
  | .setSink sink => .done (c.setSink sink)

/-- The computer after a history. **A request that is halted does not end it.** -/
def after (c : Computer) (requests : List Request) : Computer :=
  requests.foldl (fun c request ↦ (c.serve request).state) c

theorem after_cons (c : Computer) (request : Request) (requests : List Request) :
    c.after (request :: requests) = (c.serve request).state.after requests := rfl

theorem after_step (c : Computer) : c.after [.step] = c.step.state := rfl

/-- What the requests of a history do, one after the other. -/
def served (c : Computer) : List Request → List (Outcome Halt Computer)
  | [] => []
  | request :: requests => c.serve request :: (c.serve request).state.served requests

/-- The property holds of each request of a history, together with the computer that serves it. -/
def Throughout (P : Computer → Request → Prop) (c : Computer) : List Request → Prop
  | [] => True
  | request :: requests => P c request ∧ (c.serve request).state.Throughout P requests

/-- The request is for the machine's own work: it is to step, to run or to begin anew. -/
def Request.isWork : Request → Bool
  | step => true
  | frame => true
  | reset => true
  | _ => false

/-- **Every other request is a change from outside**, or none where a code names no key. -/
theorem serve_preserves_of_outside {P : Computer → Prop}
    (hkeypad : ∀ c keypad, P c → P { c with keypad := keypad })
    (hclock : ∀ c clock, P c → P { c with clock := clock })
    (hsink : ∀ c sink, P c → P (c.setSink sink)) {request : Request}
    (houtside : request.isWork = false) (h : P c) : P (c.serve request).state := by
  have hpad : ∀ pad, P (c.withKeypad pad).state := by
    intro pad
    rcases pad with e | keypad
    · exact h
    · exact hkeypad c keypad h
  cases request with
  | step | frame | reset => exact nomatch houtside
  | press code => exact hpad _
  | release code => exact hpad _
  | moveClock d => exact hclock c _ h
  | setSink sink => exact hsink c sink h

/-- What steps and the changes from outside keep, every request but a reset keeps. Frames need no
case of their own. -/
theorem serve_preserves_of_ne_reset {P : Computer → Prop} (hstep : ∀ c, P c → P c.step.state)
    (hkeypad : ∀ c keypad, P c → P { c with keypad := keypad })
    (hclock : ∀ c clock, P c → P { c with clock := clock })
    (hsink : ∀ c sink, P c → P (c.setSink sink)) {request : Request} (hne : request ≠ .reset)
    (h : P c) : P (c.serve request).state := by
  cases request with
  | step => exact hstep c h
  -- A frame is a run of steps, and keeps what each of them keeps.
  | frame => exact steps_preserves hstep _ h
  | reset => exact absurd rfl hne
  | _ => exact serve_preserves_of_outside hkeypad hclock hsink rfl h

/-- **What steps, resets and the changes from outside keep, every request keeps.** -/
theorem serve_preserves {P : Computer → Prop} (hstep : ∀ c, P c → P c.step.state)
    (hreset : ∀ c, P c → P c.reset.state)
    (hkeypad : ∀ c keypad, P c → P { c with keypad := keypad })
    (hclock : ∀ c clock, P c → P { c with clock := clock })
    (hsink : ∀ c sink, P c → P (c.setSink sink)) (request : Request) (h : P c) :
    P (c.serve request).state := by
  by_cases hne : request = .reset
  · rw [hne]
    exact hreset c h
  · exact serve_preserves_of_ne_reset hstep hkeypad hclock hsink hne h

/-- **What single requests keep, histories keep.** -/
theorem after_preserves {P : Computer → Prop} (hstep : ∀ c, P c → P c.step.state)
    (hreset : ∀ c, P c → P c.reset.state)
    (hkeypad : ∀ c keypad, P c → P { c with keypad := keypad })
    (hclock : ∀ c clock, P c → P { c with clock := clock })
    (hsink : ∀ c sink, P c → P (c.setSink sink)) (requests : List Request) (h : P c) :
    P (c.after requests) := by
  induction requests generalizing c with
  | nil => exact h
  | cons request rest ih =>
    rw [after_cons]
    exact ih (serve_preserves hstep hreset hkeypad hclock hsink request h)

/-- **A property that the requests of a history keep, each on its own terms, holds throughout.** -/
theorem Throughout.invariant {P : Computer → Prop} {Q : Computer → Request → Prop}
    (hserve : ∀ c request, P c → Q c request → P (c.serve request).state)
    {requests : List Request} (hQ : c.Throughout Q requests) (h : P c) :
    c.Throughout (fun c request ↦ P c ∧ Q c request) requests ∧ P (c.after requests) := by
  induction requests generalizing c with
  | nil => exact ⟨trivial, h⟩
  | cons request rest ih =>
    obtain ⟨hfirst, hrest⟩ := hQ
    obtain ⟨hthrough, hafter⟩ := ih hrest (hserve c request h hfirst)
    exact ⟨⟨⟨h, hfirst⟩, hthrough⟩, hafter⟩

theorem Throughout.mono {P Q : Computer → Request → Prop}
    (himp : ∀ c request, P c request → Q c request) {requests : List Request}
    (h : c.Throughout P requests) : c.Throughout Q requests := by
  induction requests generalizing c with
  | nil => trivial
  | cons request rest ih =>
    obtain ⟨hfirst, hrest⟩ := h
    exact ⟨himp c request hfirst, ih hrest⟩

/-! ### Resets -/

/-- The part of a reset that comes before the clock is read. -/
def rewound (c : Computer) : Computer :=
  { c with
    registers := Registers.initial c.programStart
    memory := (c.memory.load Font.start Font.sprites).1
    random := .seeded c.config.seed }

/-- There is room for the font. -/
theorem fault_load_font {m : Memory} (h : 80 ≤ m.capacity) :
    (m.load Font.start Font.sprites).2 = none := by
  have hlength : Font.sprites.length = 80 := Font.length_sprites
  rw [Memory.fault_load (Int.natCast_nonneg _), Memory.blockFault,
    if_pos (Or.inr (by rw [hlength, Font.start]; omega))]

/-- **With room for the font, only the clock can stop a reset.** -/
theorem reset_eq (h : 80 ≤ c.memory.capacity) :
    c.reset = match c.clock.now with
      | .error e => .refused c.rewound e
      | .ok now => ⟨c.rewound.restarted now, Signal.tell c.sink false, none⟩ := by
  have hfont := fault_load_font h
  simp only [reset, hfont]
  rfl

/-- A reset that got to its end has found room for the font and a clock that answers. -/
theorem exists_reset_eq (h : c.reset.halt = none) :
    80 ≤ c.memory.capacity ∧ ∃ now, c.clock.now = .ok now ∧
      c.reset = ⟨c.rewound.restarted now, Signal.tell c.sink false, none⟩ := by
  have hcap : 80 ≤ c.memory.capacity := by
    have hfont := Memory.fault_load (m := c.memory) (Int.natCast_nonneg Font.start) Font.sprites
    have hlength : Font.sprites.length = 80 := Font.length_sprites
    by_contra hsmall
    rw [Memory.blockFault, hlength, if_neg (by rw [Font.start]; omega)] at hfont
    simp only [reset, hfont] at h
    cases h
  refine ⟨hcap, ?_⟩
  rw [reset_eq hcap] at h ⊢
  rcases hnow : c.clock.now with e | now
  · rw [hnow] at h
    cases h
  · exact ⟨now, rfl, rfl⟩

/-- **One that is cut short tells no sink**, and touches only what comes before the clock. -/
theorem exists_reset_eq_of_some {e : Halt} (h : c.reset.halt = some e) :
    ∃ registers memory random, c.reset =
      ⟨{ c with registers := registers, memory := memory, random := random }, [], some e⟩ := by
  rcases hrun : c.memory.load Font.start Font.sprites with ⟨memory, - | cause⟩
  · rcases hnow : c.clock.now with e' | now
    · simp only [reset, hrun, hnow, Outcome.refused] at h ⊢
      exact ⟨_, _, _, by rw [h]⟩
    · simp only [reset, hrun, hnow] at h
      exact nomatch h
  · simp only [reset, hrun, Outcome.faulted] at h ⊢
    exact ⟨_, _, c.random, by rw [h]⟩

/-- So a computer that does not get through its first reset is never heard. -/
theorem signals_boot_of_some {config : Config} {memory : Memory} {screen : Screen} {keypad : Keypad}
    {sink : Option Sink} {clock : Clock Binary64} {booted : Outcome Halt Computer} {e : Halt}
    (hboot : boot config memory screen keypad sink clock = .ok booted) (h : booted.halt = some e) :
    booted.signals = [] := by
  rw [boot] at hboot
  rcases hbuilt : unstarted config memory screen keypad sink clock with e' | c
  · rw [hbuilt] at hboot
    exact nomatch hboot
  · rw [hbuilt] at hboot
    cases hboot
    obtain ⟨registers, memory, random, heq⟩ := exists_reset_eq_of_some h
    rw [heq]

theorem programStart_le (c : Computer) : (c.programStart : Int) ≤ 0xFFFF := by
  rw [programStart, Platform.programStart.eq_def]
  split <;> decide

theorem inRange_rewound (c : Computer) : c.rewound.registers.InRange :=
  .initial (Int.natCast_nonneg _) c.programStart_le

/-- A reset that gets to its end leaves a well-formed computer, **whatever it began with**. -/
theorem wellFormed_of_reset (h : 80 ≤ c.memory.capacity) (hdone : c.reset.halt = none) :
    c.reset.state.WellFormed := by
  rw [reset_eq h] at hdone ⊢
  cases hnow : c.clock.now with
  | error e => rw [hnow] at hdone; exact nomatch hdone
  | ok now => exact ⟨c.inRange_rewound, .standard⟩

/-- And one that is stopped by the clock does not spoil a well-formed one. -/
theorem WellFormed.reset (hc : c.WellFormed) (h : 80 ≤ c.memory.capacity) :
    c.reset.state.WellFormed := by
  rw [reset_eq h]
  cases c.clock.now with
  | error e => exact ⟨c.inRange_rewound, hc.screen⟩
  | ok now => exact ⟨c.inRange_rewound, .standard⟩

theorem capacity_reset (h : 80 ≤ c.memory.capacity) :
    c.reset.state.memory.capacity = c.memory.capacity := by
  rw [reset_eq h]
  cases c.clock.now with
  | error e => exact Memory.capacity_load _ _ _
  | ok now => exact Memory.capacity_load _ _ _

/-- **A computer can be switched on** over any memory with room for the font, if the clock answers
twice. -/
theorem exists_boot_eq {config : Config} {memory : Memory} {screen : Screen} {keypad : Keypad}
    {sink : Option Sink} {clock : Clock Binary64} (hcap : 80 ≤ memory.capacity)
    {first second : Binary64} (hfirst : clock.now = .ok first)
    (hsecond : clock.tick.now = .ok second) :
    ∃ booted, boot config memory screen keypad sink clock = .ok booted ∧ booted.halt = none := by
  rw [boot, unstarted, hfirst]
  refine ⟨_, rfl, ?_⟩
  rw [reset_eq hcap]
  show (match clock.tick.now with
    | .error e => Outcome.refused _ e
    | .ok now => ⟨_, _, none⟩ : Outcome Halt Computer).halt = none
  rw [hsecond]

/-! ### Steps within a history -/

/-- **A step of a well-formed computer ends or faults**, unless the clock has no answer for the
timer. The fault is of one of the three families. -/
theorem step_ends_or_faults (hc : c.WellFormed) :
    c.step.halt = none ∨
      (∃ f, c.step.halt = some (.fault f) ∧
        (f.cause.kind = .memory ∨ f.cause.kind = .stack ∨ f.cause.kind = .decode)) ∨
      ∃ e, c.clock.now = .error e ∧ c.step.halt = some (.host e) := by
  cases hobstacle : c.stepObstacle with
  | none =>
    rcases halt_step_of_none hc hobstacle with hnone | hclock
    · exact Or.inl hnone
    · exact Or.inr (Or.inr hclock)
  | some cause =>
    obtain ⟨place, hplace⟩ := halt_step_of_some hc hobstacle
    exact Or.inr (Or.inl ⟨_, hplace, kind_of_stepObstacle hobstacle⟩)

/-- **The ranges survive every history**, together with the capacity of the memory. -/
theorem WellFormed.after (hc : c.WellFormed) (hcap : 80 ≤ c.memory.capacity)
    (requests : List Request) :
    (c.after requests).WellFormed ∧
      (c.after requests).memory.capacity = c.memory.capacity := by
  refine after_preserves
    (P := fun c' ↦ c'.WellFormed ∧ c'.memory.capacity = c.memory.capacity)
    ?_ ?_ ?_ ?_ ?_ requests ⟨hc, rfl⟩
  · rintro c' ⟨h, heq⟩
    exact ⟨h.step.1, h.step.2.trans heq⟩
  · rintro c' ⟨h, heq⟩
    have hcap' : 80 ≤ c'.memory.capacity := heq ▸ hcap
    exact ⟨h.reset hcap', (capacity_reset hcap').trans heq⟩
  · rintro c' keypad ⟨h, heq⟩
    exact ⟨⟨h.registers, h.screen⟩, heq⟩
  · rintro c' clock ⟨h, heq⟩
    exact ⟨⟨h.registers, h.screen⟩, heq⟩
  · rintro c' sink ⟨h, heq⟩
    exact ⟨⟨h.registers, h.screen⟩, heq⟩

/-- **A computer never leaves its ranges, and only a fault of the program stops its steps.** It may
be switched on over any memory that has room for the font, with any contents; any screen, keypad,
sink and clock; and be used in any way. A clock without an answer is the one thing besides a fault
that a step can end with. -/
theorem wellFormed_after_boot {config : Config} {memory : Memory} {screen : Screen}
    {keypad : Keypad} {sink : Option Sink} {clock : Clock Binary64}
    {booted : Outcome Halt Computer} (hcap : 80 ≤ memory.capacity)
    (hboot : boot config memory screen keypad sink clock = .ok booted)
    (hdone : booted.halt = none) (requests : List Request) :
    let c := booted.state.after requests
    c.WellFormed ∧ c.memory.capacity = memory.capacity ∧
      (c.screen.cells.size : Int) = c.screen.width * c.screen.height ∧
      (c.step.halt = none ∨
        (∃ f, c.step.halt = some (.fault f) ∧
          (f.cause.kind = .memory ∨ f.cause.kind = .stack ∨ f.cause.kind = .decode)) ∨
        ∃ e, c.clock.now = .error e ∧ c.step.halt = some (.host e)) := by
  intro c
  -- The computer before its first reset matters only by its memory: nothing else survives.
  obtain ⟨c₀, hmemory, rfl⟩ : ∃ c₀ : Computer, c₀.memory = memory ∧ booted = c₀.reset := by
    rw [boot, unstarted] at hboot
    cases hnow : clock.now with
    | error e => rw [hnow] at hboot; exact nomatch hboot
    | ok now => rw [hnow] at hboot; exact ⟨_, rfl, (Except.ok.inj hboot).symm⟩
  subst hmemory
  have hreset := wellFormed_of_reset hcap hdone
  have hcap' : c₀.reset.state.memory.capacity = c₀.memory.capacity := capacity_reset hcap
  obtain ⟨hc, hcapacity⟩ := hreset.after (hcap' ▸ hcap) requests
  exact ⟨hc, hcapacity.trans hcap', hc.screen.size_cells_eq, step_ends_or_faults hc⟩

/-- The smallest memory, all zero, under a clock that stands still. The requests run an empty
program off the end of it, reset and run off it again. -/
theorem wellFormed_after_boot_smallest :
    ∃ booted : Outcome Halt Computer,
      80 ≤ (Memory.blank 80).capacity ∧
      boot {} (.blank 80) .standard .allUp (some 0) ⟨fun _ _ ↦ .ok 0, 0, 0⟩ = .ok booted ∧
      booted.halt = none ∧
      (booted.state.after [.step, .press 5, .frame, .reset, .step]).WellFormed := by
  have hcap : 80 ≤ (Memory.blank 80).capacity := by decide
  obtain ⟨booted, hboot, hdone⟩ :
      ∃ booted,
        boot {} (.blank 80) .standard .allUp (some 0) ⟨fun _ _ ↦ .ok 0, 0, 0⟩ = .ok booted ∧
          booted.halt = none := exists_boot_eq hcap rfl rfl
  exact ⟨booted, hcap, hboot, hdone,
    (wellFormed_after_boot hcap hboot hdone [.step, .press 5, .frame, .reset, .step]).1⟩

end ChipEight.Computer
