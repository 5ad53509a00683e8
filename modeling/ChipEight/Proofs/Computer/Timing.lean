import ChipEight.Proofs.Computer.Background
import ChipEight.Proofs.Computer.History
import Mathlib.Data.List.Forall2

/-!
# What a program can learn of time

The timer works at the end of every step, on two registers and on the sink, and **one instruction
alone reads what it has done**: the one that copies the delay register. `SameButTime` relates two
computers that agree in everything else, and a step that is not of that instruction keeps it,
whatever clocks the two have and whoever listens (`SameButTime.step`). Even a clock without an
answer makes no difference: it halts its own computer's step, but only when the instruction has been
carried out.

`sameButTime_served_of_boot` puts this together for two computers that were switched on over the
same memory. Until the first of them copies its delay register **they cannot be told apart** but by
their timing, neither by their states nor by their faults.
-/

namespace ChipEight.Computer

open Instruction

variable {c c' : Computer} {w : Nat} {i : Instruction}

/-! ### Computers that differ in time alone -/

/-- The computer with another timing. -/
def withTiming (c : Computer) (t : Timing) : Computer := c.change id fun _ ↦ t

/-- Two computers agree in everything that time has no hand in. -/
structure SameButTime (c c' : Computer) : Prop where
  config_eq : c'.config = c.config
  memory_eq : c'.memory = c.memory
  /-- The screens have the same sides and the same pixels. -/
  screen_eq : c'.screen = c.screen
  keypad_eq : c'.keypad = c.keypad
  v_eq : c'.registers.v = c.registers.v
  i_eq : c'.registers.i = c.registers.i
  pc_eq : c'.registers.pc = c.registers.pc
  sp_eq : c'.registers.sp = c.registers.sp
  stack_eq : c'.registers.stack = c.registers.stack
  random_eq : c'.random = c.random
  hires_eq : c'.hires = c.hires
  waiting_eq : c'.waiting = c.waiting
  lastOpcode_eq : c'.lastOpcode = c.lastOpcode
  lastFault_eq : c'.lastFault = c.lastFault

theorem sameButTime_withTiming (c : Computer) (t : Timing) : c.SameButTime (c.withTiming t) :=
  ⟨rfl, rfl, rfl, rfl, rfl, rfl, rfl, rfl, rfl, rfl, rfl, rfl, rfl, rfl⟩

theorem SameButTime.eq_withTiming (h : c.SameButTime c') : c' = c.withTiming c'.timing := by
  obtain ⟨config, memory, screen, keypad, clock, ⟨v, i, pc, sp, stack, delay, sound⟩, random, timer,
    sink, timerSink, hires, waiting, lastOpcode, lastFault⟩ := c'
  obtain ⟨h1, h2, h3, h4, h5, h6, h7, h8, h9, h10, h11, h12, h13, h14⟩ := h
  cases h1; cases h2; cases h3; cases h4; cases h5; cases h6; cases h7
  cases h8; cases h9; cases h10; cases h11; cases h12; cases h13; cases h14
  rfl

/-! ### Instructions -/

/-- **An instruction that does not copy the delay register does the same at any time.** It may leave
another timing, because it may have set a countdown register. -/
theorem exists_perform_withTiming (c : Computer) (opcode : Int) (t : Timing)
    (hi : ∀ x, i ≠ .getDelay x) :
    ∃ t', (c.withTiming t).perform opcode i = (c.perform opcode i).onState (·.withTiming t') := by
  cases i with
  | getDelay x => exact absurd rfl (hi x)
  | setDelay x => exact ⟨{ t with delay := (c.v x).toNat }, rfl⟩
  | setSound x => exact ⟨{ t with sound := (c.v x).toNat }, rfl⟩
  | draw x y rows => exact ⟨t, c.doDraw_change x y rfl⟩
  | storeDigits x => exact ⟨t, c.afterStore_change _⟩
  | storeRegisters x => exact ⟨t, c.afterStore_change _⟩
  | loadRegisters x => exact ⟨t, c.doLoadRegisters_change rfl⟩
  | _ => exact ⟨t, c.perform_change opcode rfl⟩

/-! ### Steps -/

/-- The next word copies the delay register. -/
def ReadsDelay (c : Computer) : Prop :=
  ∃ w, c.fetch = .ok w ∧ w / 0x1000 = 0xF ∧ w % 0x100 = 0x07

theorem exists_timed_eq_withTiming (c : Computer) : ∃ t, c.timed = c.withTiming t := by
  obtain ⟨registers, timer, clock, hregisters, heq⟩ := c.exists_timed_eq
  refine ⟨⟨registers.delay, registers.sound, timer, clock, c.sink, c.timerSink⟩, ?_⟩
  rw [heq]
  rcases hregisters with rfl | rfl
  · rfl
  · rfl

/-- The timer changes the timing alone, so it does not matter what it finds there. -/
theorem exists_timed_withTiming (c : Computer) (t : Timing) :
    ∃ t', (c.withTiming t).timed = c.timed.withTiming t' := by
  obtain ⟨s, hs⟩ := c.exists_timed_eq_withTiming
  obtain ⟨t', ht'⟩ := (c.withTiming t).exists_timed_eq_withTiming
  refine ⟨t', ?_⟩
  rw [hs, ht']
  rfl

theorem fault?_finishStep (c : Computer) (opcode : Int) : (c.finishStep opcode).fault? = none := by
  rw [Outcome.fault?]
  rcases c.halt_finishStep opcode with h | ⟨e, -, h⟩
  · rw [h]
    rfl
  · rw [h]
    rfl

/-- **The end of a step**: what was carried out alike is settled alike. -/
theorem exists_settle_onState (w : Nat) (o : Outcome Halt Computer) (t : Timing) :
    ∃ t', (settle w (o.onState (·.withTiming t))).state = (settle w o).state.withTiming t' ∧
      (settle w (o.onState (·.withTiming t))).fault? = (settle w o).fault? := by
  have hsame : (o.onState (·.withTiming t)).halt = o.halt := rfl
  cases hhalt : o.halt with
  | none =>
    have hhalt' := hsame.trans hhalt
    obtain ⟨t', ht'⟩ := o.state.exists_timed_withTiming t
    rw [settle_of_none hhalt, settle_of_none hhalt']
    refine ⟨t', ?_, ?_⟩
    · rw [Outcome.andThen_of_none hhalt, Outcome.andThen_of_none hhalt']
      simp only [state_finishStep]
      exact ht'
    · rw [Outcome.fault?_andThen hhalt, Outcome.fault?_andThen hhalt', fault?_finishStep,
        fault?_finishStep]
  | some halt =>
    cases halt with
    | fault f =>
      rw [settle_of_fault hhalt, settle_of_fault (hsame.trans hhalt)]
      exact ⟨t, rfl, rfl⟩
    | host e =>
      rw [settle_of_host hhalt, settle_of_host (hsame.trans hhalt)]
      exact ⟨t, rfl, rfl⟩

theorem exists_step_withTiming (c : Computer) (t : Timing) (hunread : ¬ c.ReadsDelay) :
    ∃ t', (c.withTiming t).step.state = c.step.state.withTiming t' ∧
      (c.withTiming t).step.fault? = c.step.fault? := by
  have hsame : (c.withTiming t).fetch = c.fetch := rfl
  cases hfetch : c.fetch with
  | error cause =>
    rw [step_of_fetch_error hfetch, step_of_fetch_error (hsame.trans hfetch)]
    exact ⟨t, rfl, rfl⟩
  | ok w =>
    cases hdecode : decode w with
    | none =>
      rw [step_of_unknown hfetch hdecode, step_of_unknown (hsame.trans hfetch) hdecode]
      exact ⟨t, rfl, rfl⟩
    | some i =>
      have hi : ∀ x, i ≠ .getDelay x := by
        rintro x rfl
        have hword := standsFor_of_decode (fetch_eq_ok hfetch).2.2 hdecode
        cases hword with
        | getDelay hw hlow => exact hunread ⟨w, hfetch, hw, hlow⟩
      obtain ⟨t', ht'⟩ := (c.remembering w).exists_perform_withTiming w t hi
      rw [step_of_decode hfetch hdecode, step_of_decode (hsame.trans hfetch) hdecode, performed,
        show (c.withTiming t).remembering w = (c.remembering w).withTiming t from rfl, ht']
      exact exists_settle_onState w _ t'

/-- **A step that does not copy the delay register keeps time out of everything else**, and out of
its fault. -/
theorem SameButTime.step (h : c.SameButTime c') (hunread : ¬ c.ReadsDelay) :
    c.step.state.SameButTime c'.step.state ∧ c'.step.fault? = c.step.fault? := by
  obtain ⟨t', hstate, hfault⟩ := c.exists_step_withTiming c'.timing hunread
  rw [← h.eq_withTiming] at hstate hfault
  refine ⟨?_, hfault⟩
  rw [hstate]
  exact sameButTime_withTiming _ _

/-! ### Histories -/

/-- **And so does every request but a frame and a reset**, which a clock without an answer can cut
short in one of the computers. -/
theorem SameButTime.serve (h : c.SameButTime c') {request : Request} (hframe : request ≠ .frame)
    (hreset : request ≠ .reset) (hunread : request = .step → ¬ c.ReadsDelay) :
    (c.serve request).state.SameButTime (c'.serve request).state ∧
      (c'.serve request).fault? = (c.serve request).fault? := by
  have hpad : ∀ pad, (c.withKeypad pad).state.SameButTime (c'.withKeypad pad).state ∧
      (c'.withKeypad pad).fault? = (c.withKeypad pad).fault? := by
    intro pad
    cases pad with
    | ok keypad => exact ⟨{ h with keypad_eq := rfl }, rfl⟩
    | error e => exact ⟨h, rfl⟩
  cases request with
  | step => exact h.step (hunread rfl)
  | frame => exact absurd rfl hframe
  | reset => exact absurd rfl hreset
  | press code =>
    simp only [Computer.serve, h.keypad_eq]
    exact hpad _
  | release code =>
    simp only [Computer.serve, h.keypad_eq]
    exact hpad _
  | moveClock d => exact ⟨{ h with }, rfl⟩
  | setSink sink => exact ⟨{ h with }, rfl⟩

/-- The same requests find the two computers alike and leave them alike, **one after the other**. -/
theorem SameButTime.served (h : c.SameButTime c') {requests : List Request}
    (hrequests : ∀ request ∈ requests, request ≠ .frame ∧ request ≠ .reset)
    (hunread : c.Throughout (fun c request ↦ request = .step → ¬ c.ReadsDelay) requests) :
    List.Forall₂ (fun o o' ↦ o.state.SameButTime o'.state ∧ o'.fault? = o.fault?)
      (c.served requests) (c'.served requests) := by
  induction requests generalizing c c' with
  | nil => exact .nil
  | cons request requests ih =>
    obtain ⟨hfirst, hrest⟩ := hunread
    obtain ⟨hframe, hreset⟩ := hrequests request List.mem_cons_self
    have hserve := h.serve hframe hreset hfirst
    exact .cons hserve (ih hserve.1 (fun r hr ↦ hrequests r (List.mem_cons_of_mem _ hr)) hrest)

/-- Of a computer that was switched on, the clock, the sink and the old screen are not to be seen
but in its timing. -/
theorem sameButTime_of_boot {config : Config} {memory : Memory} {screen screen' : Screen}
    {keypad : Keypad} {sink sink' : Option Sink} {clock clock' : Clock Binary64}
    {booted booted' : Outcome Halt Computer}
    (hboot : boot config memory screen keypad sink clock = .ok booted) (hdone : booted.halt = none)
    (hboot' : boot config memory screen' keypad sink' clock' = .ok booted')
    (hdone' : booted'.halt = none) : booted.state.SameButTime booted'.state := by
  rw [boot, unstarted] at hboot hboot'
  cases hnow : clock.now with
  | error e => rw [hnow] at hboot; cases hboot
  | ok now =>
    cases hnow' : clock'.now with
    | error e => rw [hnow'] at hboot'; cases hboot'
    | ok now' =>
      rw [hnow] at hboot
      rw [hnow'] at hboot'
      cases hboot
      cases hboot'
      obtain ⟨-, second, -, hreset⟩ := exists_reset_eq hdone
      obtain ⟨-, second', -, hreset'⟩ := exists_reset_eq hdone'
      rw [hreset, hreset']
      exact ⟨rfl, rfl, rfl, rfl, rfl, rfl, rfl, rfl, rfl, rfl, rfl, rfl, rfl, rfl⟩

/-- **Two computers cannot be told apart by their timing** until the first of them copies its delay
register. They are switched on over the same memory, with the same options and the same keypad, but
under any two clocks and with any sinks, and then stepped any number of times, with keys going up
and down in between. Behind each request they agree in everything but time, and a step of one faults
exactly if that of the other does, with the same fault. -/
theorem sameButTime_served_of_boot {config : Config} {memory : Memory} {screen screen' : Screen}
    {keypad : Keypad} {sink sink' : Option Sink} {clock clock' : Clock Binary64}
    {booted booted' : Outcome Halt Computer}
    (hboot : boot config memory screen keypad sink clock = .ok booted) (hdone : booted.halt = none)
    (hboot' : boot config memory screen' keypad sink' clock' = .ok booted')
    (hdone' : booted'.halt = none) {requests : List Request}
    (hrequests : ∀ request ∈ requests, request ≠ .frame ∧ request ≠ .reset)
    (hunread :
      booted.state.Throughout (fun c request ↦ request = .step → ¬ c.ReadsDelay) requests) :
    booted.state.SameButTime booted'.state ∧
      List.Forall₂ (fun o o' ↦ o.state.SameButTime o'.state ∧ o'.fault? = o.fault?)
        (booted.state.served requests) (booted'.state.served requests) := by
  have hstart := sameButTime_of_boot hboot hdone hboot' hdone'
  exact ⟨hstart, hstart.served hrequests hunread⟩

theorem not_readsDelay (hfetch : c.fetch = .ok w) (hw : ¬ (w / 0x1000 = 0xF ∧ w % 0x100 = 0x07)) :
    ¬ c.ReadsDelay := by
  rintro ⟨w', hfetch', hdelay⟩
  cases hfetch.symm.trans hfetch'
  exact hw hdelay

/-- A memory with a program that sets both countdown registers. -/
def setting : Memory := ((Memory.blank 0x208).load 0x200 [0x60, 0x05, 0xF0, 0x15, 0xF0, 0x18]).1

/-- A clock that has no more answers once a computer was switched on under it. -/
def failing : Clock Binary64 :=
  ⟨fun reads _ ↦ if reads < 2 then .ok 0 else .error .outOfRange, 0, 0⟩

/-- One of the two has a clock that fails and nobody listening. -/
theorem sameButTime_served_setting :
    ∃ booted booted',
      boot {} setting .standard .allUp (some 0) ⟨fun _ _ ↦ .ok 0, 0, 0⟩ = .ok booted ∧
        boot {} setting .standard .allUp none failing = .ok booted' ∧
        booted'.state.step.halt = some (.host .outOfRange) ∧
        List.Forall₂ (fun o o' ↦ o.state.SameButTime o'.state ∧ o'.fault? = o.fault?)
          (booted.state.served [.step, .press 5, .step, .step])
          (booted'.state.served [.step, .press 5, .step, .step]) := by
  obtain ⟨booted, hboot⟩ :
      ∃ booted, boot {} setting .standard .allUp (some 0) ⟨fun _ _ ↦ .ok 0, 0, 0⟩ = .ok booted :=
    ⟨_, rfl⟩
  obtain ⟨booted', hboot'⟩ :
      ∃ booted, boot {} setting .standard .allUp none failing = .ok booted := ⟨_, rfl⟩
  have hdone : booted.halt = none := by
    cases hboot
    decide +kernel
  have hdone' : booted'.halt = none := by
    cases hboot'
    decide +kernel
  have hhost : booted'.state.step.halt = some (.host .outOfRange) := by
    cases hboot'
    decide +kernel
  have hunread : booted.state.Throughout (fun c request ↦ request = .step → ¬ c.ReadsDelay)
      [.step, .press 5, .step, .step] := by
    cases hboot
    refine ⟨fun _ ↦ not_readsDelay (w := 0x6005) ?_ (by decide), (nomatch ·),
      fun _ ↦ not_readsDelay (w := 0xF015) ?_ (by decide),
      fun _ ↦ not_readsDelay (w := 0xF018) ?_ (by decide), trivial⟩
    · decide +kernel
    · decide +kernel
    · decide +kernel
  exact ⟨booted, booted', hboot, hboot', hhost,
    (sameButTime_served_of_boot hboot hdone hboot' hdone' (by decide) hunread).2⟩

end ChipEight.Computer
