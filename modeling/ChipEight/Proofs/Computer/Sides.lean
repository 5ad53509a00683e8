import ChipEight.Proofs.Computer.Restart
import ChipEight.Proofs.Display.Painting

/-!
# The sides of a program's screen

A computer begins with a screen of the standard size, and a jump can make it one of the high
resolution. **No instruction gives the screen other sides**, and a reset goes back to the standard
ones; so the screen of a computer is at any time one that can be drawn into a window.
-/

namespace ChipEight

namespace Screen

variable {s t : Screen}

theorem OfProgram.standard : Screen.standard.OfProgram := ⟨rfl, .inl rfl⟩

theorem OfProgram.highResolution : Screen.highResolution.OfProgram := ⟨rfl, .inr rfl⟩

theorem OfProgram.of_sides (h : s.OfProgram) (hwidth : t.width = s.width)
    (hheight : t.height = s.height) : t.OfProgram := by
  rw [OfProgram, hwidth, hheight]
  exact h

end Screen

namespace Computer

variable {c : Computer} {i : Instruction}

theorem screen_goOn (c : Computer) (cause : Option Fault.Cause) :
    (c.goOn cause).state.screen = c.screen := by
  rcases cause with - | cause
  · rfl
  · rfl

/-- **Of all instructions, three touch the screen.** -/
theorem screen_perform (c : Computer) (opcode : Int) (hclear : i ≠ .clearScreen)
    (hjump : ∀ target, i ≠ .jump target) (hdraw : ∀ x y rows, i ≠ .draw x y rows) :
    (c.perform opcode i).state.screen = c.screen := by
  cases i with
  | clearScreen => exact absurd rfl hclear
  | jump target => exact absurd rfl (hjump target)
  | draw x y rows => exact absurd rfl (hdraw x y rows)
  | ret =>
    obtain ⟨registers, heq⟩ := c.exists_state_doReturn_eq
    rw [perform, heq]
  | call target =>
    obtain ⟨registers, heq⟩ := c.exists_state_doCall_eq target
    rw [perform, heq]
  | skip condition =>
    rw [perform]
    split <;> rfl
  | arithmetic a x y =>
    rw [perform, doArithmetic]
    rcases a.flag? (c.v x) (c.v y) with - | flag <;> rfl
  | getDelay x =>
    rw [perform, doGetDelay]
    split <;> rfl
  | awaitKey x =>
    rw [perform, doAwaitKey]
    rcases c.keypad.lowest with - | key <;> rfl
  | storeDigits x => rw [perform, doStoreDigits, afterStore_eq_goOn, screen_goOn]
  | storeRegisters x => rw [perform, doStoreRegisters_eq_goOn, screen_goOn]
  | loadRegisters x => rw [perform, doLoadRegisters_eq_goOn, screen_goOn]
  | _ => rfl

theorem sides_doDraw (c : Computer) (x y : Reg) (rows : Fin 16) :
    (c.doDraw x y rows).state.screen.width = c.screen.width ∧
      (c.doDraw x y rows).state.screen.height = c.screen.height := by
  simp only [doDraw]
  split
  · exact ⟨rfl, rfl⟩
  · rename_i screen hit hplot
    split
    · exact Screen.sides_of_plotAll hplot
    · exact Screen.sides_of_plotAll hplot

/-- **Jumps alone give the screen other sides.** -/
theorem sides_perform (c : Computer) (opcode : Int) (hjump : ∀ target, i ≠ .jump target) :
    (c.perform opcode i).state.screen.width = c.screen.width ∧
      (c.perform opcode i).state.screen.height = c.screen.height := by
  by_cases hclear : i = .clearScreen
  · rw [hclear]
    exact ⟨rfl, rfl⟩
  by_cases hdraw : ∃ x y rows, i = .draw x y rows
  · obtain ⟨x, y, rows, rfl⟩ := hdraw
    exact c.sides_doDraw x y rows
  · rw [c.screen_perform opcode hclear hjump fun x y rows heq ↦ hdraw ⟨x, y, rows, heq⟩]
    exact ⟨rfl, rfl⟩

theorem ofProgram_perform (h : c.screen.OfProgram) (opcode : Int) (i : Instruction) :
    (c.perform opcode i).state.screen.OfProgram := by
  by_cases hjump : ∃ target, i = .jump target
  · obtain ⟨target, rfl⟩ := hjump
    rw [perform, doJump]
    split
    · exact .highResolution
    · exact h
  · obtain ⟨hwidth, hheight⟩ := c.sides_perform opcode fun target heq ↦ hjump ⟨target, heq⟩
    exact h.of_sides hwidth hheight

theorem ofProgram_step (h : c.screen.OfProgram) : c.step.state.screen.OfProgram := by
  refine step_preserves (P := fun c ↦ c.screen.OfProgram) ?_ ?_ ?_ h
  · intro c opcode fault h
    exact h
  · intro c opcode i h
    exact ofProgram_perform h opcode i
  · intro c h
    obtain ⟨registers, timer, clock, -, heq⟩ := c.exists_timed_eq
    rw [heq]
    exact h

/-- A reset that is cut short leaves the screen as it was. -/
theorem ofProgram_reset (h : c.screen.OfProgram) : c.reset.state.screen.OfProgram := by
  rcases hhalt : c.reset.halt with - | e
  · obtain ⟨-, now, -, heq⟩ := exists_reset_eq hhalt
    rw [heq]
    exact .standard
  · obtain ⟨registers, memory, random, heq⟩ := exists_reset_eq_of_some hhalt
    rw [heq]
    exact h

/-- **A computer that was switched on has the standard screen**, whatever screen it was built
over. -/
theorem ofProgram_boot {config : Config} {memory : Memory} {screen : Screen} {keypad : Keypad}
    {sink : Option Sink} {clock : Clock Binary64} {booted : Outcome Halt Computer}
    (hboot : boot config memory screen keypad sink clock = .ok booted)
    (hdone : booted.halt = none) : booted.state.screen.OfProgram := by
  obtain ⟨-, clock', now, rfl⟩ := exists_eq_fresh_of_boot hboot hdone
  exact .standard

end Computer

end ChipEight
