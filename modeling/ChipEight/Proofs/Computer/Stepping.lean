import ChipEight.Computer.Step
import ChipEight.Proofs.Computer.Background
import ChipEight.Proofs.Computer.Footprint

/-!
# What a step does

A step is taken apart once and for all: its word cannot be fetched (`step_of_fetch_error`), is no
instruction (`step_of_unknown`), is stopped (`step_of_stopped`) or is carried out
(`step_of_performed`), and only then does the timer see the clock (`timed`).

`stepObstacle` is what keeps a step from its end, judged before it is taken. **A step of a
well-formed computer faults exactly with its obstacle** (`halt_step_eq_fault_iff`); without one it
gets to its end, unless the clock has no answer (`halt_step_of_none`).

`step_preserves` and `steps_preserves` are the inductions that invariants need: what instructions
and the timer keep, steps and runs keep, **whether they are halted or not**.
-/

namespace ChipEight.Computer

open Instruction

variable {c : Computer} {w : Nat} {i : Instruction}

/-! ### Fetching -/

/-- Both bytes of a fetched word are in the memory, and it has sixteen bits. -/
theorem fetch_eq_ok (h : c.fetch = .ok w) :
    0 ≤ c.registers.pc ∧ c.registers.pc + 1 < c.memory.capacity ∧ w < 0x10000 := by
  rw [fetch] at h
  cases hhigh : c.memory.read c.registers.pc with
  | error cause => rw [hhigh] at h; exact nomatch h
  | ok high =>
    cases hlow : c.memory.read (c.registers.pc + 1) with
    | error cause => rw [hhigh, hlow] at h; exact nomatch h
    | ok low =>
      rw [hhigh, hlow] at h
      have hw : high.toNat * 256 + low.toNat = w := Except.ok.inj h
      have hhigh' := high.toNat_lt
      have hlow' := low.toNat_lt
      exact ⟨(Memory.inBounds_of_read_eq_ok hhigh).1, (Memory.inBounds_of_read_eq_ok hlow).2,
        by omega⟩

/-- **A fetch faults at the first of its two addresses that the memory does not have.** -/
theorem fetch_eq_error (h0 : 0 ≤ c.registers.pc)
    (h : c.memory.capacity ≤ c.registers.pc + 1) :
    c.fetch = .error (c.memory.faultAt (max c.registers.pc c.memory.capacity)) := by
  rw [fetch]
  by_cases hin : c.memory.InBounds c.registers.pc
  · have hlt := hin.2
    have hout : ¬ c.memory.InBounds (c.registers.pc + 1) := fun hin' ↦ by
      have := hin'.2
      omega
    rw [Memory.read_eq_getD hin, Memory.read_eq_error hout,
      show max c.registers.pc c.memory.capacity = c.registers.pc + 1 by omega]
    rfl
  · have hle : c.memory.capacity ≤ c.registers.pc := by
      by_contra hlt
      exact hin ⟨h0, by omega⟩
    rw [Memory.read_eq_error hin, Int.max_eq_left hle]
    rfl

theorem faultAt_of_fetch {cause : Fault.Cause} (h : c.fetch = .error cause) :
    ∃ address, cause = c.memory.faultAt address := by
  rw [fetch] at h
  by_cases hhigh : c.memory.InBounds c.registers.pc
  · by_cases hlow : c.memory.InBounds (c.registers.pc + 1)
    · rw [Memory.read_eq_getD hhigh, Memory.read_eq_getD hlow] at h
      exact nomatch h
    · rw [Memory.read_eq_getD hhigh, Memory.read_eq_error hlow] at h
      exact ⟨_, (Except.error.inj h).symm⟩
  · rw [Memory.read_eq_error hhigh] at h
    exact ⟨_, (Except.error.inj h).symm⟩

theorem exists_fetch_eq_ok (h0 : 0 ≤ c.registers.pc)
    (h : c.registers.pc + 1 < c.memory.capacity) : ∃ w, c.fetch = .ok w := by
  rw [fetch, Memory.read_eq_getD ⟨h0, by omega⟩, Memory.read_eq_getD ⟨by omega, h⟩]
  exact ⟨_, rfl⟩

/-- The word is told by the program counter and the memory. -/
theorem fetch_congr {c' : Computer} (hpc : c'.registers.pc = c.registers.pc)
    (hmemory : c'.memory = c.memory) : c'.fetch = c.fetch := by
  rw [fetch, fetch, hpc, hmemory]

/-! ### The ways a step can go -/

/-- The computer with the word that it is about to carry out. -/
def remembering (c : Computer) (w : Nat) : Computer := { c with lastOpcode := w }

/-- The instruction of a step, carried out. -/
def performed (c : Computer) (w : Nat) (i : Instruction) : Outcome Halt Computer :=
  (c.remembering w).perform w i

theorem step_of_fetch_error {cause : Fault.Cause} (h : c.fetch = .error cause) :
    c.step = c.recordFault cause none := by
  rw [step, h]

theorem execute_of_decode (hw : w < 0x10000) (hi : decode w = some i) :
    c.execute w = c.perform w i := by
  have hin : ¬ ((w : Int) < -65536 ∨ 65536 ≤ (w : Int)) := by omega
  have hmod : ((w : Int) % 65536).toNat = w := by omega
  rw [execute, if_neg hin, hmod, hi]

/-- The end of a step, by how its instruction has ended. -/
def settle (w : Nat) (o : Outcome Halt Computer) : Outcome Halt Computer :=
  match o.halt with
  | none => o.andThen fun c ↦ c.finishStep w
  | some (.fault f) =>
    let recorded := o.state.recordFault f.cause (some (w : Int))
    { recorded with signals := o.signals ++ recorded.signals }
  | some (.host _) => o

section

variable {o : Outcome Halt Computer}

theorem settle_of_none (h : o.halt = none) : settle w o = o.andThen fun c ↦ c.finishStep w := by
  rw [settle, h]

theorem settle_of_fault {f : Fault} (h : o.halt = some (.fault f)) :
    settle w o =
      { o.state.recordFault f.cause (some (w : Int)) with
        signals := o.signals ++ (o.state.recordFault f.cause (some (w : Int))).signals } := by
  rw [settle, h]

theorem settle_of_host {e : HostError} (h : o.halt = some (.host e)) : settle w o = o := by
  rw [settle, h]

end

theorem step_eq_settle (h : c.fetch = .ok w) :
    c.step = settle w ((c.remembering w).execute w) := by
  rw [step, h]
  rfl

theorem step_of_unknown (h : c.fetch = .ok w) (hi : decode w = none) :
    c.step = (c.remembering w).recordFault (.unknownOpcode w) (some (w : Int)) := by
  have hw := (fetch_eq_ok h).2.2
  have hin : ¬ ((w : Int) < -65536 ∨ 65536 ≤ (w : Int)) := by omega
  have hmod : ((w : Int) % 65536).toNat = w := by omega
  rw [step_eq_settle h, execute, if_neg hin, hmod, hi]
  rfl

theorem step_of_decode (h : c.fetch = .ok w) (hi : decode w = some i) :
    c.step = settle w (c.performed w i) := by
  rw [step_eq_settle h, execute_of_decode (fetch_eq_ok h).2.2 hi, performed]

theorem step_of_stopped (h : c.fetch = .ok w) (hi : decode w = some i) {f : Fault}
    (hstop : (c.performed w i).halt = some (.fault f)) :
    c.step =
      { (c.performed w i).state.recordFault f.cause (some (w : Int)) with
        signals := (c.performed w i).signals ++
          ((c.performed w i).state.recordFault f.cause (some (w : Int))).signals } := by
  rw [step_of_decode h hi, settle, hstop]

theorem step_of_performed (h : c.fetch = .ok w) (hi : decode w = some i)
    (hdone : (c.performed w i).halt = none) :
    c.step = (c.performed w i).andThen fun c ↦ c.finishStep w := by
  rw [step_of_decode h hi, settle, hdone]

/-! ### The timer at the end of a step -/

/-- The computer after the timer has seen the clock, if it is to see it and the clock answers. -/
def timed (c : Computer) : Computer := if c.waiting then c else c.updateTimer.state

theorem state_finishStep (c : Computer) (opcode : Int) : (c.finishStep opcode).state = c.timed := by
  rw [finishStep, Outcome.andThen_of_none rfl, timed]
  show (if c.waiting then Outcome.done c else c.updateTimer).state = _
  split <;> rfl

/-- A finished step is halted by the clock, if at all. -/
theorem halt_finishStep (c : Computer) (opcode : Int) :
    (c.finishStep opcode).halt = none ∨
      ∃ e, c.clock.now = .error e ∧ (c.finishStep opcode).halt = some (.host e) := by
  rw [finishStep, Outcome.andThen_of_none rfl]
  show (if c.waiting then Outcome.done c else c.updateTimer).halt = none ∨
    ∃ e, _ ∧ (if c.waiting then Outcome.done c else c.updateTimer).halt = some (.host e)
  split
  · exact Or.inl rfl
  · cases hnow : c.clock.now with
    | ok now => exact Or.inl (by simp only [updateTimer, Countdown.update, countdown, hnow]; rfl)
    | error e =>
      exact Or.inr ⟨e, rfl, by simp only [updateTimer, Countdown.update, countdown, hnow]; rfl⟩

/-- **The timer lowers the countdown registers at most once**, and touches nothing else but itself
and the clock. -/
theorem exists_timed_eq (c : Computer) :
    ∃ registers timer clock, (registers = c.registers ∨ registers = c.registers.countDown) ∧
      c.timed = { c with registers := registers, timer := timer, clock := clock } := by
  by_cases hwait : c.waiting
  · exact ⟨c.registers, c.timer, c.clock, Or.inl rfl, if_pos hwait⟩
  · rw [timed, if_neg hwait]
    cases hnow : c.clock.now with
    | error e =>
      refine ⟨c.registers, c.timer, c.clock, Or.inl rfl, ?_⟩
      simp only [updateTimer, Countdown.update, countdown, hnow]
      rfl
    | ok now =>
      refine ⟨c.timer.applyTo c.registers, c.timer.update now, c.clock.tick, ?_, ?_⟩
      · rw [Timer.applyTo]
        split
        · exact Or.inr rfl
        · exact Or.inl rfl
      · simp only [updateTimer, Countdown.update, countdown, hnow]
        rfl

/-- Behind an instruction that was carried out there is only the timer, **and what stops a step
there does not change the state**. -/
theorem state_step_of_performed (h : c.fetch = .ok w) (hi : decode w = some i)
    (hdone : (c.performed w i).halt = none) :
    c.step.state = (c.performed w i).state.timed := by
  rw [step_of_performed h hi hdone, Outcome.andThen_of_none hdone]
  exact state_finishStep _ _

theorem WellFormed.timed (h : c.WellFormed) : c.timed.WellFormed := by
  obtain ⟨registers, timer, clock, hregisters, heq⟩ := c.exists_timed_eq
  rw [heq]
  rcases hregisters with rfl | rfl
  · exact ⟨h.registers, h.screen⟩
  · exact ⟨h.registers.countDown, h.screen⟩

/-! ### Changes that the end of a step does not see -/

section

variable {f : Computer → Computer}

/-- A change that neither the notice of a step nor the timer sees goes through the end of the step.
-/
theorem finishStep_onState (hregisters : (f c).registers = c.registers)
    (hwaiting : (f c).waiting = c.waiting) (htimer : (f c).updateTimer = c.updateTimer.onState f)
    (opcode : Int) : (f c).finishStep opcode = (c.finishStep opcode).onState f := by
  rw [finishStep, finishStep, hregisters, hwaiting]
  refine Outcome.onState_andThen (o := .noted c (.executed opcode c.registers c.waiting))
    fun _ ↦ ?_
  show (if (f c).waiting then Outcome.done (f c) else (f c).updateTimer) =
    (if c.waiting then Outcome.done c else c.updateTimer).onState f
  rw [hwaiting]
  split
  · rfl
  · exact htimer

/-- **And through the end of any instruction**, if faults are remembered alike. -/
theorem settle_onState (hfinish : ∀ c, (f c).finishStep w = (c.finishStep w).onState f)
    (hrecord : ∀ c cause opcode,
      (f c).recordFault cause opcode = (c.recordFault cause opcode).onState f)
    (o : Outcome Halt Computer) : settle w (o.onState f) = (settle w o).onState f := by
  have hsame : (o.onState f).halt = o.halt := rfl
  rcases hhalt : o.halt with - | fault | e
  · rw [settle_of_none hhalt, settle_of_none (hsame.trans hhalt)]
    exact Outcome.onState_andThen fun _ ↦ hfinish _
  · rw [settle_of_fault hhalt, settle_of_fault (hsame.trans hhalt), Outcome.state_onState, hrecord]
    rfl
  · rw [settle_of_host hhalt, settle_of_host (hsame.trans hhalt)]

end

/-! ### Invariants of steps and runs -/

/-- What the work on its own word keeps, a step keeps, **however it ends**. -/
theorem step_preserves_of_word {P : Computer → Prop}
    (hnote : ∀ c opcode fault, P c → P { c with lastOpcode := opcode, lastFault := fault })
    (hperform : ∀ w i, c.fetch = .ok w → decode w = some i → P (c.remembering w) →
      P (c.performed w i).state)
    (htimed : ∀ c, P c → P c.timed) (h : P c) : P c.step.state := by
  -- To remember a word or a fault is only to take a note.
  have hremember : ∀ w, P (c.remembering w) := fun w ↦ hnote c w c.lastFault h
  have hrecord : ∀ c cause opcode, P c → P (c.recordFault cause opcode).state :=
    fun c cause opcode h ↦ hnote c c.lastOpcode _ h
  rcases hfetch : c.fetch with cause | w
  · rw [step_of_fetch_error hfetch]
    exact hrecord c _ _ h
  rcases hdecode : decode w with - | i
  · rw [step_of_unknown hfetch hdecode]
    exact hrecord _ _ _ (hremember w)
  have hperformed : P (c.performed w i).state := hperform w i hfetch hdecode (hremember w)
  rw [step_of_decode hfetch hdecode, settle]
  rcases hhalt : (c.performed w i).halt with - | f | e
  · simp only [Outcome.andThen_of_none hhalt, state_finishStep]
    exact htimed _ hperformed
  · exact hrecord _ _ _ hperformed
  · exact hperformed

/-- **What the machine's own work keeps, a step keeps.** -/
theorem step_preserves {P : Computer → Prop}
    (hnote : ∀ c opcode fault, P c → P { c with lastOpcode := opcode, lastFault := fault })
    (hperform : ∀ c opcode i, P c → P (c.perform opcode i).state)
    (htimed : ∀ c, P c → P c.timed) (h : P c) : P c.step.state :=
  step_preserves_of_word hnote (fun w i _ _ h ↦ hperform (c.remembering w) w i h) htimed h

/-- **What a step keeps, a run of steps keeps**, wherever it is halted. -/
theorem steps_preserves {P : Computer → Prop} (hstep : ∀ c, P c → P c.step.state) (n : Nat)
    (h : P c) : P (steps n c).state := by
  induction n generalizing c with
  | zero => exact h
  | succ n ih =>
    rw [steps]
    cases hhalt : c.step.halt with
    | none =>
      rw [Outcome.andThen_of_none hhalt]
      exact ih (hstep c h)
    | some halt =>
      -- The run ends here, in the state that the halted step has left.
      rw [Outcome.andThen_of_some hhalt]
      exact hstep c h

theorem timed_leavesMemory (c : Computer) : c.timed.memory = c.memory := by
  obtain ⟨registers, timer, clock, -, heq⟩ := c.exists_timed_eq
  rw [heq]

/-- **A step keeps the ranges, and the capacity of the memory.** -/
theorem WellFormed.step (h : c.WellFormed) :
    c.step.state.WellFormed ∧ c.step.state.memory.capacity = c.memory.capacity := by
  refine step_preserves
    (P := fun c' ↦ c'.WellFormed ∧ c'.memory.capacity = c.memory.capacity) ?_ ?_ ?_ ⟨h, rfl⟩
  · rintro c' opcode fault ⟨h', hcap⟩
    exact ⟨⟨h'.registers, h'.screen⟩, hcap⟩
  · rintro c' opcode i ⟨h', hcap⟩
    exact ⟨h'.perform opcode i, (perform_leavesAlone c' opcode i).capacity_eq.trans hcap⟩
  · rintro c' ⟨h', hcap⟩
    exact ⟨h'.timed, by rw [timed_leavesMemory, hcap]⟩

/-! ### What stops a step -/

/-- What keeps a step from its end, if anything but the clock does. -/
def stepObstacle (c : Computer) : Option Fault.Cause :=
  match c.fetch with
  | .error cause => some cause
  | .ok w =>
    match decode w with
    | none => some (.unknownOpcode w)
    | some i => c.obstacle i

theorem stepObstacle_of_standsFor (h : c.fetch = .ok w) (hi : StandsFor w i) :
    c.stepObstacle = c.obstacle i := by
  simp only [stepObstacle, h, decode_of_standsFor hi]

/-- The obstacles of steps are of three families. -/
theorem kind_of_stepObstacle {cause : Fault.Cause} (h : c.stepObstacle = some cause) :
    cause.kind = .memory ∨ cause.kind = .stack ∨ cause.kind = .decode := by
  rw [stepObstacle] at h
  cases hfetch : c.fetch with
  | error cause' =>
    rw [hfetch] at h
    cases h
    obtain ⟨address, rfl⟩ := faultAt_of_fetch hfetch
    exact Or.inl rfl
  | ok w =>
    simp only [hfetch] at h
    cases hdecode : decode w with
    | none =>
      simp only [hdecode] at h
      cases h
      exact Or.inr (Or.inr rfl)
    | some i =>
      simp only [hdecode] at h
      rcases kind_of_obstacle h with hmemory | hstack
      · exact Or.inl hmemory
      · exact Or.inr (Or.inl hstack)

theorem WellFormed.remembering (h : c.WellFormed) (w : Nat) : (c.remembering w).WellFormed :=
  ⟨h.registers, h.screen⟩

theorem obstacle_remembering (c : Computer) (w : Nat) (i : Instruction) :
    (c.remembering w).obstacle i = c.obstacle i := by
  cases i <;> rfl

theorem halt_performed (hc : c.WellFormed) (w : Nat) (i : Instruction) :
    (c.performed w i).halt = (c.obstacle i).map fun cause ↦ .fault { cause } := by
  rw [performed, halt_perform (hc.remembering w), obstacle_remembering]

/-- A step with an obstacle faults with it. -/
theorem halt_step_of_some (hc : c.WellFormed) {cause : Fault.Cause}
    (h : c.stepObstacle = some cause) :
    ∃ place, c.step.halt = some (.fault ⟨cause, some place⟩) := by
  rw [stepObstacle] at h
  cases hfetch : c.fetch with
  | error cause' =>
    rw [hfetch] at h
    cases h
    rw [step_of_fetch_error hfetch]
    exact ⟨_, rfl⟩
  | ok w =>
    simp only [hfetch] at h
    cases hdecode : decode w with
    | none =>
      simp only [hdecode] at h
      cases h
      rw [step_of_unknown hfetch hdecode]
      exact ⟨_, rfl⟩
    | some i =>
      simp only [hdecode] at h
      have hstop := halt_performed hc w i
      rw [h] at hstop
      rw [step_of_stopped hfetch hdecode hstop]
      exact ⟨_, rfl⟩

/-- A step without one gets to its end, unless the clock has no answer. -/
theorem halt_step_of_none (hc : c.WellFormed) (h : c.stepObstacle = none) :
    c.step.halt = none ∨ ∃ e, c.clock.now = .error e ∧ c.step.halt = some (.host e) := by
  rw [stepObstacle] at h
  cases hfetch : c.fetch with
  | error cause => rw [hfetch] at h; exact nomatch h
  | ok w =>
    simp only [hfetch] at h
    cases hdecode : decode w with
    | none => rw [hdecode] at h; exact nomatch h
    | some i =>
      simp only [hdecode] at h
      have hdone := halt_performed hc w i
      rw [h] at hdone
      have hclock : (c.performed w i).state.clock = c.clock :=
        (perform_leavesAlone (c.remembering w) w i).clock_eq
      rw [step_of_performed hfetch hdecode hdone, Outcome.andThen_of_none hdone, ← hclock]
      exact halt_finishStep _ _

/-- **A step faults exactly with its obstacle.** -/
theorem halt_step_eq_fault_iff (hc : c.WellFormed) (cause : Fault.Cause) :
    (∃ place, c.step.halt = some (.fault ⟨cause, place⟩)) ↔ c.stepObstacle = some cause := by
  constructor
  · rintro ⟨place, hplace⟩
    cases hobstacle : c.stepObstacle with
    | none =>
      rcases halt_step_of_none hc hobstacle with hnone | ⟨e, -, he⟩
      · exact nomatch hplace.symm.trans hnone
      · exact nomatch hplace.symm.trans he
    | some cause' =>
      obtain ⟨place', hplace'⟩ := halt_step_of_some hc hobstacle
      cases hplace.symm.trans hplace'
      rfl
  · intro h
    obtain ⟨place, hplace⟩ := halt_step_of_some hc h
    exact ⟨some place, hplace⟩

end ChipEight.Computer
