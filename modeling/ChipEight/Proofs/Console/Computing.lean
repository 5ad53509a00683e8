import ChipEight.Proofs.Console.History
import ChipEight.Proofs.Sound.Beeping

/-!
# The computer of a console

A console does to its computer what it is asked, and to nothing else. `handle_cases` is what an
event can come to. With it, requests that are not loads **neither bring a computer nor take one
away** (`isLoaded_serve`), and without a computer they do not do anything that could be heard
(`signals_serve_of_idle`).

`Computes.after` is the induction over the histories of a console for what concerns its computer
alone: what every computer has when it is switched on, and keeps whatever is done to it, is had by
the computer of a console at any time, **whatever has been loaded meanwhile**.
-/

namespace ChipEight.Console

variable {c : Console} {request : Request}

/-! ### Events -/

/-- **What an event comes to**: a reset of what is loaded, a turn of the overlay, a change of the
keypad or nothing. -/
theorem handle_cases (c : Console) (e : Event) :
    (c.isLoaded = true ∧ c.handle e = c.softReset) ∨
      c.handle e = .done (c.setDebug !c.debug) ∨
      (∃ pad, c.handle e = c.changeKeypad pad) ∨ c.handle e = .done c := by
  rcases e with key | key | - | -
  · rw [handle]
    split
    · split
      · exact .inl ⟨‹_›, rfl⟩
      · exact .inr (.inr (.inr rfl))
    · split
      · exact .inr (.inl rfl)
      · split
        · exact .inr (.inr (.inl ⟨_, rfl⟩))
        · exact .inr (.inr (.inr rfl))
  · rw [handle]
    split
    · exact .inr (.inr (.inl ⟨_, rfl⟩))
    · exact .inr (.inr (.inr rfl))
  · exact .inr (.inr (.inr rfl))
  · exact .inr (.inr (.inr rfl))

/-! ### With a computer and without -/

theorem isLoaded_of_running {computer : Computer} (h : c.work = .running computer) :
    c.isLoaded = true := by
  rw [isLoaded, computer?, h]
  rfl

theorem isLoaded_setKeypad (c : Console) (pad : Keypad) :
    (c.setKeypad pad).isLoaded = c.isLoaded := by
  rcases hwork : c.work with ⟨screen, keypad, clock, memory⟩ | computer
  · simp only [isLoaded, computer?, setKeypad, hwork]
  · simp only [isLoaded, computer?, setKeypad, hwork, Option.isSome_some]

theorem isLoaded_changeKeypad (c : Console) (pad : Except HostError Keypad) :
    (c.changeKeypad pad).state.isLoaded = c.isLoaded := by
  rcases pad with e | pad
  · rfl
  · exact c.isLoaded_setKeypad pad

theorem isLoaded_softReset (c : Console) : c.softReset.state.isLoaded = c.isLoaded := by
  rcases hwork : c.work with ⟨screen, keypad, clock, memory⟩ | computer
  · simp only [softReset, hwork, Outcome.noted]
  · rw [isLoaded_of_running hwork]
    simp only [softReset, hwork]
    rfl

/-- **Requests that are not loads neither bring a computer nor take it away.** -/
theorem isLoaded_serve (c : Console) (hload : request.isLoad = false) :
    (c.serve request).state.isLoaded = c.isLoaded := by
  cases request with
  | loadBytes | loadFile => exact absurd hload.symm Bool.false_ne_true
  | frame =>
    rcases hwork : c.work with ⟨screen, keypad, clock, memory⟩ | computer
    · simp only [serve, runFrame, hwork, Outcome.done]
    · simp only [serve, runFrame, hwork, isLoaded_of_running hwork]
      rfl
  | step =>
    rcases hwork : c.work with ⟨screen, keypad, clock, memory⟩ | computer
    · simp only [serve, step, hwork, Outcome.done]
    · simp only [serve, step, hwork, isLoaded_of_running hwork]
      rfl
  | softReset => exact c.isLoaded_softReset
  | event e =>
    rw [serve]
    rcases c.handle_cases e with ⟨-, h⟩ | h | ⟨pad, h⟩ | h
    · rw [h, isLoaded_softReset]
    · rw [h]
      rfl
    · rw [h, isLoaded_changeKeypad]
    · rw [h]
      rfl
  | press code => exact c.isLoaded_changeKeypad _
  | release code => exact c.isLoaded_changeKeypad _
  | moveClock d =>
    rcases hwork : c.work with ⟨screen, keypad, clock, memory⟩ | computer
    · simp only [serve, Outcome.done, isLoaded, computer?, advance, hwork]
    · simp only [serve, Outcome.done, isLoaded, computer?, advance, hwork, Option.isSome_some]
  | setSink sink =>
    rcases hwork : c.work with ⟨screen, keypad, clock, memory⟩ | computer
    · simp only [serve, Outcome.done, isLoaded, computer?, setSink, hwork]
    · simp only [serve, Outcome.done, isLoaded, computer?, setSink, hwork, Option.isSome_some]
  | setDebug on => rfl

theorem signals_changeKeypad (c : Console) (pad : Except HostError Keypad) :
    (c.changeKeypad pad).signals = [] := by
  rcases pad with e | pad
  · rfl
  · rfl

/-- **Without a computer nothing is heard** of such requests; there may be a remark for the log. -/
theorem signals_serve_of_idle (hidle : c.isLoaded = false) (hload : request.isLoad = false) :
    Silent (c.serve request).signals := by
  rcases hwork : c.work with ⟨screen, keypad, clock, memory⟩ | computer
  · cases request with
    | loadBytes | loadFile => exact absurd hload.symm Bool.false_ne_true
    | frame =>
      simp only [serve, runFrame, hwork]
      exact .nil
    | step =>
      simp only [serve, step, hwork]
      exact .nil
    | softReset =>
      simp only [serve, softReset, hwork]
      exact .notice _
    | event e =>
      rw [serve]
      rcases c.handle_cases e with ⟨hloaded, -⟩ | h | ⟨pad, h⟩ | h
      · exact absurd hloaded (Bool.eq_false_iff.1 hidle)
      · rw [h]
        exact .nil
      · rw [h, signals_changeKeypad]
        exact .nil
      · rw [h]
        exact .nil
    | press code | release code =>
      rw [serve, signals_changeKeypad]
      exact .nil
    | _ => exact .nil
  · exact absurd (isLoaded_of_running hwork) (Bool.eq_false_iff.1 hidle)

/-! ### Loads -/

/-- How a load ends: with a computer that was just switched on, or without one and unheard. -/
inductive LoadEnds (o : Outcome Failure Console) : Prop
  | running {config : Config} {memory : Memory} {screen : Screen} {keypad : Keypad}
      {sink : Option Sink} {clock : Clock Binary64} {booted : Outcome Halt Computer} :
      Computer.boot config memory screen keypad sink clock = .ok booted → booted.halt = none →
        o.halt = none → o.state.work = .running booted.state → LoadEnds o
  | idle : o.halt ≠ none → o.state.isLoaded = false →
      Silent o.signals → LoadEnds o

/-- A load goes on behind a remark. -/
theorem LoadEnds.andThen {o : Outcome Failure Console} {f : Console → Outcome Failure Console}
    (hdone : o.halt = none) (hsilent : Silent o.signals)
    (h : LoadEnds (f o.state)) : LoadEnds (o.andThen f) := by
  rw [Outcome.andThen_of_none hdone]
  rcases h with ⟨hboot, hbooted, hhalt, hwork⟩ | ⟨hhalt, hidle, hsignals⟩
  · exact .running hboot hbooted hhalt hwork
  · exact .idle hhalt hidle (hsilent.append hsignals)

theorem switchOn_ends (c : Console) (memory : Memory) (platform : Platform) :
    LoadEnds (c.switchOn memory platform) := by
  rw [switchOn]
  rcases hboot : Computer.boot (c.config platform) memory c.screen c.keypad c.sink c.clock with
    e | booted
  · exact .idle (Option.some_ne_none _) rfl .nil
  · rcases hhalt : booted.halt with - | h
    · simp only [hhalt]
      exact .running hboot hhalt rfl rfl
    · simp only [hhalt, Computer.signals_boot_of_some hboot hhalt]
      exact .idle (Option.some_ne_none _) rfl .nil

theorem loadBytes_ends (c : Console) (program : List UInt8) (platform : Platform) :
    LoadEnds (c.loadBytes program platform) := by
  rcases hrun : image program platform with ⟨memory, - | cause⟩
  · rw [loadBytes_of_fits (congrArg Prod.snd hrun)]
    exact .andThen rfl (.notice _) (switchOn_ends _ _ _)
  · rw [image] at hrun
    simp only [loadBytes, hrun]
    exact .idle (Option.some_ne_none _) rfl .nil

/-- **A load ends with a computer or in silence.** -/
theorem load_ends (c : Console) (hload : request.isLoad = true) : LoadEnds (c.serve request) := by
  cases request with
  | loadBytes program platform => exact c.loadBytes_ends program platform
  | loadFile directory name platform =>
    rw [serve]
    -- Its equation takes long to be generated, because two of its cases overlap.
    unfold loadFile
    dsimp only
    split
    · exact .idle (Option.some_ne_none _) rfl (.notice _)
    · exact .idle (Option.some_ne_none _) rfl (.notice _)
    · exact .andThen rfl (.notice _) (loadBytes_ends _ _ _)
  | _ => exact absurd hload Bool.false_ne_true

/-- A load that fails leaves no computer, and no sink was told so. -/
theorem LoadEnds.of_halt {o : Outcome Failure Console} (h : LoadEnds o) (hfails : o.halt ≠ none) :
    o.state.isLoaded = false ∧ Silent o.signals := by
  rcases h with ⟨-, -, hhalt, -⟩ | ⟨-, hidle, hsilent⟩
  · exact absurd hhalt hfails
  · exact ⟨hidle, hsilent⟩

/-- One that succeeds leaves one. -/
theorem LoadEnds.isLoaded {o : Outcome Failure Console} (h : LoadEnds o) (hdone : o.halt = none) :
    o.state.isLoaded = true := by
  rcases h with ⟨-, -, -, hwork⟩ | ⟨hhalt, -, -⟩
  · exact isLoaded_of_running hwork
  · exact absurd hdone hhalt

/-! ### Invariants of the computer -/

/-- What is true of a computer when it is switched on, and stays true whatever is done to it. -/
structure Lasting (P : Computer → Prop) : Prop where
  boot : ∀ {config memory screen keypad sink clock booted},
    Computer.boot config memory screen keypad sink clock = .ok booted → booted.halt = none →
      P booted.state
  step : ∀ computer, P computer → P computer.step.state
  reset : ∀ computer, P computer → P computer.reset.state
  keypad : ∀ computer keypad, P computer → P { computer with keypad := keypad }
  clock : ∀ computer clock, P computer → P { computer with clock := clock }
  sink : ∀ computer sink, P computer → P (computer.setSink sink)

/-- The computer of the console, if there is one, has the property. -/
def Computes (c : Console) (P : Computer → Prop) : Prop :=
  ∀ computer, c.work = .running computer → P computer

section

variable {P : Computer → Prop}

theorem computes_of_idle (h : c.isLoaded = false) : c.Computes P := by
  intro computer hwork
  exact absurd (isLoaded_of_running hwork) (Bool.eq_false_iff.1 h)

theorem computes_withComputer (c : Console) {computer : Computer} (h : P computer) :
    (c.withComputer computer).Computes P := by
  intro computer' hwork
  cases hwork
  exact h

theorem Lasting.loadEnds (hP : Lasting P) {o : Outcome Failure Console} (h : LoadEnds o) :
    o.state.Computes P := by
  rcases h with ⟨hboot, hbooted, -, hwork⟩ | ⟨-, hidle, -⟩
  · intro computer hwork'
    cases hwork.symm.trans hwork'
    exact hP.boot hboot hbooted
  · exact computes_of_idle hidle

/-- What a computer keeps with another state of its keypad, it keeps when the console has one. -/
theorem Computes.changeKeypad (h : c.Computes P)
    (hkeypad : ∀ computer keypad, P computer → P { computer with keypad := keypad })
    (pad : Except HostError Keypad) : (c.changeKeypad pad).state.Computes P := by
  rcases pad with e | pad
  · exact h
  · rcases hwork : c.work with ⟨screen, keypad, clock, memory⟩ | computer
    · refine computes_of_idle ?_
      rw [isLoaded_changeKeypad, isLoaded, computer?, hwork]
      rfl
    · simp only [Console.changeKeypad, setKeypad, hwork]
      exact computes_withComputer c (hkeypad _ _ (h _ hwork))

/-- And the same of its clock. -/
theorem Computes.advance (h : c.Computes P)
    (hclock : ∀ computer clock, P computer → P { computer with clock := clock }) (d : Int) :
    (c.advance d).Computes P := by
  rcases hwork : c.work with ⟨screen, keypad, clock, memory⟩ | computer
  · simp only [Console.advance, hwork]
    exact computes_of_idle rfl
  · simp only [Console.advance, hwork]
    exact computes_withComputer c (hclock _ _ (h _ hwork))

theorem Computes.softReset (h : c.Computes P) (hP : Lasting P) : c.softReset.state.Computes P := by
  rcases hwork : c.work with ⟨screen, keypad, clock, memory⟩ | computer
  · simp only [Console.softReset, hwork]
    exact h
  · simp only [Console.softReset, hwork]
    exact computes_withComputer c (hP.reset _ (h _ hwork))

/-- **A lasting property outlives every request**, loads among them. -/
theorem Computes.serve (h : c.Computes P) (hP : Lasting P) (request : Request) :
    (c.serve request).state.Computes P := by
  cases request with
  | loadBytes | loadFile => exact hP.loadEnds (c.load_ends rfl)
  | frame =>
    rcases hwork : c.work with ⟨screen, keypad, clock, memory⟩ | computer
    · simp only [Console.serve, runFrame, hwork]
      exact h
    · simp only [Console.serve, runFrame, hwork]
      exact computes_withComputer c (Computer.steps_preserves hP.step _ (h _ hwork))
  | step =>
    rcases hwork : c.work with ⟨screen, keypad, clock, memory⟩ | computer
    · simp only [Console.serve, step, hwork]
      exact h
    · simp only [Console.serve, step, hwork]
      exact computes_withComputer c (hP.step _ (h _ hwork))
  | softReset => exact h.softReset hP
  | event e =>
    rw [Console.serve]
    rcases c.handle_cases e with ⟨-, heq⟩ | heq | ⟨pad, heq⟩ | heq
    · rw [heq]
      exact h.softReset hP
    · rw [heq]
      exact h
    · rw [heq]
      exact h.changeKeypad hP.keypad pad
    · rw [heq]
      exact h
  | press code => exact h.changeKeypad hP.keypad _
  | release code => exact h.changeKeypad hP.keypad _
  | moveClock d => exact h.advance hP.clock d
  | setSink sink =>
    rcases hwork : c.work with ⟨screen, keypad, clock, memory⟩ | computer
    · simp only [Console.serve, Outcome.done, setSink, hwork]
      exact computes_of_idle rfl
    · simp only [Console.serve, Outcome.done, setSink, hwork]
      exact fun computer' hwork' ↦ by
        cases hwork'
        exact hP.sink _ _ (h _ hwork)
  | setDebug on => exact h

/-- By induction on the requests. -/
theorem Computes.after (h : c.Computes P) (hP : Lasting P) (requests : List Request) :
    (c.after requests).Computes P := by
  induction requests generalizing c with
  | nil => exact h
  | cons request rest ih => exact ih (h.serve hP request)

end

end ChipEight.Console
