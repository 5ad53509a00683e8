import ChipEight.Proofs.Computer.Sides
import ChipEight.Proofs.Computer.SinceReset

/-!
# The high-resolution mode

The mode is a flag, and the screen that a program draws on is an object beside it; **one jump alone
changes either** (`state_step_of_switches`, `sameMode_step`). So at any moment the flag tells the
height of the screen, and it is up exactly if the program has made that jump since the last reset
(`TracksMode`). A program may come back to the place of the jump, also with the mode on: then the
screen is cleared, and stays as high as it is.

A reset that is cut short by a clock without an answer ends before the screen is put back. It leaves
the mode on, and does not count as a reset here.
-/

namespace ChipEight.Computer

open Instruction

variable {c c' : Computer} {w : Nat}

/-! ### The jump that switches -/

/-- The computer is about to carry out the word of the high-resolution jump at the place where
standard programs begin. -/
def AtSwitch (c : Computer) : Prop := c.registers.pc = 0x200 ∧ c.fetch = .ok 0x1260

/-- And it was built to take this for the sign of a high-resolution program. -/
def Switches (c : Computer) : Prop := c.config.hiresSwitch = true ∧ c.AtSwitch

/-- A jump is always carried out. -/
theorem state_step_of_jump (hfetch : c.fetch = .ok w) (hw : w / 0x1000 = 0x1) :
    c.step.state = ((c.remembering w).doJump (targetOf w)).state.timed := by
  refine state_step_of_performed hfetch (decode_of_standsFor (.jump hw)) ?_
  rw [performed, perform, doJump]
  split <;> rfl

/-- **The condition of a jump is that of the word**: no other word of its family has its target. -/
theorem switches_iff (hfetch : c.fetch = .ok w) (hw : w / 0x1000 = 0x1) :
    c.Switches ↔
      c.config.hiresSwitch = true ∧ c.registers.pc = 0x200 ∧ (targetOf w).val = 0x260 := by
  have hword : c.fetch = .ok 0x1260 ↔ (targetOf w).val = 0x260 := by
    rw [hfetch, Except.ok.injEq, targetOf]
    show w = 0x1260 ↔ w % 4096 = 0x260
    omega
  rw [Switches, AtSwitch, hword]

/-- **The jump that switches** puts up the flag and a dark screen of 64 rows, and the program goes
on where such programs begin. -/
theorem state_step_of_switches (h : c.Switches) :
    c.step.state.hires = true ∧ c.step.state.screen = .highResolution ∧
      c.step.state.registers.pc = 0x2C0 := by
  have hfetch : c.fetch = .ok 0x1260 := h.2.2
  have hcondition := (switches_iff hfetch (by decide)).1 h
  have hjump : (c.remembering 0x1260).doJump (targetOf 0x1260) =
      .noted ({ c.remembering 0x1260 with hires := true, screen := .highResolution }.jump 0x2C0)
        .highResolution :=
    if_pos hcondition
  obtain ⟨registers, timer, clock, hregisters, heq⟩ :=
    ((c.remembering 0x1260).doJump (targetOf 0x1260)).state.exists_timed_eq
  rw [state_step_of_jump hfetch (by decide), heq, hjump]
  refine ⟨rfl, rfl, ?_⟩
  rw [hjump] at hregisters
  rcases hregisters with rfl | rfl <;> rfl

/-- **Every other jump** goes where it says, and leaves the mode and the screen alone. -/
theorem state_step_of_other_jump (hfetch : c.fetch = .ok w) (hw : w / 0x1000 = 0x1)
    (h : ¬ c.Switches) :
    c.step.state.registers.pc = (w % 0x1000 : Nat) ∧ c.step.state.hires = c.hires ∧
      c.step.state.screen = c.screen := by
  rw [switches_iff hfetch hw] at h
  have hjump : (c.remembering w).doJump (targetOf w) =
      .done ((c.remembering w).jump (targetOf w)) :=
    if_neg h
  obtain ⟨registers, timer, clock, hregisters, heq⟩ :=
    ((c.remembering w).doJump (targetOf w)).state.exists_timed_eq
  rw [state_step_of_jump hfetch hw, heq, hjump]
  refine ⟨?_, rfl, rfl⟩
  rw [hjump] at hregisters
  rcases hregisters with rfl | rfl <;> rfl

/-! ### Steps that do not switch -/

/-- The flag and the sides of the screen are the same. -/
structure SameMode (c c' : Computer) : Prop where
  hires_eq : c'.hires = c.hires
  width_eq : c'.screen.width = c.screen.width
  height_eq : c'.screen.height = c.screen.height

/-- **A step that does not switch leaves the mode alone**, whatever it does to the pixels. -/
theorem sameMode_step (h : ¬ c.Switches) : c.SameMode c.step.state := by
  by_cases hjump : ∃ w, c.fetch = .ok w ∧ w / 0x1000 = 0x1
  · obtain ⟨w, hfetch, hw⟩ := hjump
    obtain ⟨-, hhires, hscreen⟩ := state_step_of_other_jump hfetch hw h
    exact ⟨hhires, by rw [hscreen], by rw [hscreen]⟩
  refine step_preserves_of_word (P := c.SameMode) ?_ ?_ ?_ ⟨rfl, rfl, rfl⟩
  · intro c' opcode fault hsame
    exact ⟨hsame.hires_eq, hsame.width_eq, hsame.height_eq⟩
  · intro w i hfetch hdecode hsame
    have hother : ∀ target, i ≠ .jump target := by
      rintro target rfl
      have hword := standsFor_of_decode (fetch_eq_ok hfetch).2.2 hdecode
      cases hword with
      | jump hw => exact hjump ⟨w, hfetch, hw⟩
    obtain ⟨hwidth, hheight⟩ := (c.remembering w).sides_perform w hother
    exact ⟨((c.remembering w).hires_perform w hother).trans hsame.hires_eq,
      hwidth.trans hsame.width_eq, hheight.trans hsame.height_eq⟩
  · intro c' hsame
    obtain ⟨registers, timer, clock, -, heq⟩ := c'.exists_timed_eq
    rw [heq]
    exact ⟨hsame.hires_eq, hsame.width_eq, hsame.height_eq⟩

/-! ### Histories -/

/-- A reset of the computer gets to its end. -/
def resetEnds (c : Computer) : Bool := c.reset.halt.isNone

/-- The flag tells of the steps on record whether one of them has switched, and the screen goes with
the flag. -/
structure TracksMode (config : Config) (c : Computer) (begun : List Computer) : Prop where
  config_eq : c.config = config
  hires_iff : c.hires = true ↔ config.hiresSwitch = true ∧ ∃ s ∈ begun, s.AtSwitch
  width_eq : c.screen.width = 64
  height_eq : c.screen.height = if c.hires then 64 else 32

theorem TracksMode.step {config : Config} {begun : List Computer} (h : TracksMode config c begun) :
    TracksMode config c.step.state (c :: begun) := by
  have hconfig : c.step.state.config = config := c.sameSetup_step.config_eq.trans h.config_eq
  by_cases hswitch : c.Switches
  · obtain ⟨hhires, hscreen, -⟩ := state_step_of_switches hswitch
    refine ⟨hconfig, ?_, by rw [hscreen]; rfl, by rw [hscreen, hhires]; rfl⟩
    exact iff_of_true hhires ⟨h.config_eq ▸ hswitch.1, c, List.mem_cons_self, hswitch.2⟩
  · have hsame := sameMode_step hswitch
    refine ⟨hconfig, ?_, hsame.width_eq.trans h.width_eq,
      by rw [hsame.height_eq, hsame.hires_eq, h.height_eq]⟩
    -- The new step is not the one that has switched, unless the computer does not heed it.
    rw [hsame.hires_eq, h.hires_iff, List.exists_mem_cons_iff]
    rw [Switches, h.config_eq] at hswitch
    tauto

theorem TracksMode.reset {config : Config} {begun : List Computer} (h : TracksMode config c begun) :
    TracksMode config c.reset.state (if c.resetEnds then [] else begun) := by
  have hconfig : c.reset.state.config = config := c.sameSetup_reset.config_eq.trans h.config_eq
  rcases hhalt : c.reset.halt with - | e
  · obtain ⟨-, now, -, heq⟩ := exists_reset_eq hhalt
    have hends : c.resetEnds = true := by rw [resetEnds, hhalt]; rfl
    rw [hends]
    refine ⟨hconfig, ?_, by rw [heq]; rfl, by rw [heq]; rfl⟩
    rw [heq]
    exact iff_of_false Bool.false_ne_true (by simp)
  · obtain ⟨registers, memory, random, heq⟩ := exists_reset_eq_of_some hhalt
    have hends : c.resetEnds = false := by rw [resetEnds, hhalt]; rfl
    rw [hends]
    exact ⟨hconfig, by rw [heq]; exact h.hires_iff, by rw [heq]; exact h.width_eq,
      by rw [heq]; exact h.height_eq⟩

theorem tracksMode_after {booted : Computer} {config : Config} (h : TracksMode config booted [])
    (requests : List Request) :
    TracksMode config (booted.after requests) (booted.stepsSinceReset resetEnds requests) := by
  refine stepsSinceReset_invariant (P := TracksMode config) ?_ ?_ ?_ ?_ ?_ requests h
  · intro c begun h
    exact h.step
  · intro c begun h
    exact h.reset
  · intro c begun keypad h
    exact ⟨h.config_eq, h.hires_iff, h.width_eq, h.height_eq⟩
  · intro c begun clock h
    exact ⟨h.config_eq, h.hires_iff, h.width_eq, h.height_eq⟩
  · intro c begun sink h
    exact ⟨h.config_eq, h.hires_iff, h.width_eq, h.height_eq⟩

/-- **The high-resolution mode is what a program has asked for since the last reset, and the screen
goes with it.** A computer is switched on and used in any way. At any moment the flag is up exactly
if the computer was built to heed the jump, and a step since the last reset was that jump; the
screen has 64 columns, and 64 rows with the flag up and 32 without. From there, a step that gives
the screen another size is that jump; the jump leaves a dark screen of 64 rows and goes on at
`0x2C0`; and every other jump goes where it says and leaves the flag and the screen alone, among
them all jumps from another place and all jumps of a computer that does not heed it. -/
theorem hires_tracks_screen {config : Config} {memory : Memory} {screen : Screen} {keypad : Keypad}
    {sink : Option Sink} {clock : Clock Binary64} {booted : Outcome Halt Computer}
    (hboot : boot config memory screen keypad sink clock = .ok booted)
    (hdone : booted.halt = none) (requests : List Request) :
    let c := booted.state.after requests
    c.config = config ∧
      (c.hires = true ↔ config.hiresSwitch = true ∧
        ∃ s ∈ booted.state.stepsSinceReset resetEnds requests, s.AtSwitch) ∧
      (c.screen.width = 64 ∧ c.screen.height = if c.hires then 64 else 32) ∧
      (c.step.state.screen.width ≠ c.screen.width ∨
        c.step.state.screen.height ≠ c.screen.height → c.Switches) ∧
      (c.Switches → c.step.state.screen = .blank 64 64 ∧ c.step.state.registers.pc = 0x2C0) ∧
      ∀ w, c.fetch = .ok w → w / 0x1000 = 0x1 → ¬ c.Switches →
        c.step.state.registers.pc = (w % 0x1000 : Nat) ∧ c.step.state.hires = c.hires ∧
          c.step.state.screen = c.screen := by
  intro c
  obtain ⟨-, clock', now, rfl⟩ := exists_eq_fresh_of_boot hboot hdone
  have hbegin : TracksMode config (fresh config memory keypad sink clock' now) [] :=
    ⟨rfl, iff_of_false Bool.false_ne_true (by simp), rfl, rfl⟩
  have htracks : TracksMode config c _ := tracksMode_after hbegin requests
  refine ⟨htracks.config_eq, htracks.hires_iff, ⟨htracks.width_eq, htracks.height_eq⟩,
    fun hsize ↦ ?_, fun hswitch ↦ ?_, fun w hfetch hw hother ↦ ?_⟩
  · by_contra hswitch
    have hsame := sameMode_step hswitch
    exact hsize.elim (· hsame.width_eq) (· hsame.height_eq)
  · obtain ⟨-, hscreen, hpc⟩ := state_step_of_switches hswitch
    exact ⟨hscreen, hpc⟩
  · exact state_step_of_other_jump hfetch hw hother

/-- A memory that ends behind the high-resolution jump. -/
def switching : Memory :=
  ((Memory.blank 0x202).load 0x200 [0x12, 0x60]).1

/-- The program switches at its first step, and a reset takes the mode back. -/
theorem hires_tracks_screen_switching :
    (starting switching).step.state.screen = .blank 64 64 ∧
      ((starting switching).after [.step, .press 3]).hires = true ∧
      ((starting switching).after [.step, .press 3]).screen.height = 64 ∧
      ((starting switching).after [.step, .reset]).hires = false := by
  have hboot := boot_eq_starting (by decide : 80 ≤ switching.capacity)
  have hswitch : (starting switching).Switches := ⟨rfl, rfl, by decide +kernel⟩
  have hends : ((starting switching).after [.step]).resetEnds = true := by decide +kernel
  -- Nothing else is of use about the computer, and its parts would be compared one by one.
  generalize starting switching = c at hboot hswitch hends ⊢
  have hbegin := hires_tracks_screen hboot rfl []
  have hup := hires_tracks_screen hboot rfl [.step, .press 3]
  have hdown := hires_tracks_screen hboot rfl [.step, .reset]
  have hhires := hup.2.1.2 ⟨rfl, c, List.mem_singleton_self _, hswitch.2⟩
  have hforgets : c.stepsSinceReset resetEnds [.step, .reset] = [] := if_pos hends
  refine ⟨(hbegin.2.2.2.2.1 hswitch).1, hhires, hup.2.2.1.2.trans (if_pos hhires), ?_⟩
  refine Bool.eq_false_iff.2 fun h ↦ ?_
  obtain ⟨s, hmem, -⟩ := (hdown.2.1.1 h).2
  rw [hforgets] at hmem
  exact absurd hmem List.not_mem_nil

end ChipEight.Computer
