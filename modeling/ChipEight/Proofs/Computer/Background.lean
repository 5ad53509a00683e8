import ChipEight.Proofs.Computer.Perform

/-!
# The background of the instructions

Most instructions neither look at nor touch the memory and the **timing**, which is the countdown
registers, the timer, the clock and the sinks. `perform_change` says that such an instruction does
the same before any background, and leaves it as it is. So a claim that two computers with different
backgrounds run alike has to be argued only for the seven instructions that reach into it
(`Instruction.reachesBackground`); of these, the four that work on a block of memory see no more of
it than the outcome of their accesses.

`Outcome.onState` is the form in which the claims are made: an operation on the changed computer is
the change of what the operation leaves behind, **with the same signals and the same halt**.
-/

namespace ChipEight

/-- The fault that a halt is. -/
def Halt.fault? : Halt → Option Fault
  | .fault f => some f
  | .host _ => none

namespace Outcome

variable {ε σ : Type}

/-- The same outcome with a changed state. -/
def onState (o : Outcome ε σ) (f : σ → σ) : Outcome ε σ := { o with state := f o.state }

@[simp] theorem state_onState (o : Outcome ε σ) (f : σ → σ) : (o.onState f).state = f o.state := rfl

@[simp] theorem halt_onState (o : Outcome ε σ) (f : σ → σ) : (o.onState f).halt = o.halt := rfl

/-- The fault that an operation was stopped by. -/
def fault? (o : Outcome Halt σ) : Option Fault := o.halt.bind Halt.fault?

theorem fault?_of_halt_eq_none {o : Outcome Halt σ} (h : o.halt = none) : o.fault? = none := by
  rw [fault?, h]
  rfl

/-- Behind an operation that got to its end, a sequence faults as its second operation does. -/
theorem fault?_andThen {o : Outcome Halt σ} (h : o.halt = none) (f : σ → Outcome Halt σ) :
    (o.andThen f).fault? = (f o.state).fault? := by
  rw [andThen_of_none h]
  rfl

/-- A sequence without a fault begins with an operation without one. -/
theorem fault?_of_andThen {o : Outcome Halt σ} {f : σ → Outcome Halt σ}
    (h : (o.andThen f).fault? = none) : o.fault? = none := by
  cases hhalt : o.halt with
  | none => exact fault?_of_halt_eq_none hhalt
  | some e => rwa [andThen_of_some hhalt] at h

/-- A change goes through a sequence of operations if it goes through the second of them. The first
one is left as it is where it was halted. -/
theorem onState_andThen {o : Outcome ε σ} {f : σ → σ} {g g' : σ → Outcome ε σ}
    (h : o.halt = none → g' (f o.state) = (g o.state).onState f) :
    (o.onState f).andThen g' = (o.andThen g).onState f := by
  cases hhalt : o.halt with
  | some e => rw [andThen_of_some hhalt, andThen_of_some (by rw [halt_onState, hhalt])]
  | none =>
    rw [andThen_of_none hhalt, andThen_of_none (by rw [halt_onState, hhalt]), state_onState,
      h hhalt]
    rfl

end Outcome

namespace Instruction

/-- The instructions that look at their background or touch it. -/
def reachesBackground : Instruction → Bool
  | draw .. => true
  | getDelay _ => true
  | setDelay _ => true
  | setSound _ => true
  | storeDigits _ => true
  | storeRegisters _ => true
  | loadRegisters _ => true
  | _ => false

end Instruction

namespace Computer

/-- What time has a hand in: the countdown registers, the timer, the clock and who listens. -/
structure Timing where
  delay : Int
  sound : Int
  timer : Timer Binary64
  clock : Clock Binary64
  sink : Option Sink
  timerSink : Option Sink

def timing (c : Computer) : Timing :=
  ⟨c.registers.delay, c.registers.sound, c.timer, c.clock, c.sink, c.timerSink⟩

/-- The computer with its background changed: its memory by `φ` and its timing by `g`. -/
def change (φ : Memory → Memory) (g : Timing → Timing) (c : Computer) : Computer :=
  { c with
    memory := φ c.memory
    registers := { c.registers with delay := (g c.timing).delay, sound := (g c.timing).sound }
    timer := (g c.timing).timer
    clock := (g c.timing).clock
    sink := (g c.timing).sink
    timerSink := (g c.timing).timerSink }

variable {φ : Memory → Memory} {g : Timing → Timing} {i : Instruction}

/-! ### Instructions that do not reach their background -/

theorem doReturn_change (c : Computer) :
    (c.change φ g).doReturn = c.doReturn.onState (change φ g) := by
  have hsp : (c.change φ g).registers.sp = c.registers.sp := rfl
  simp only [doReturn, hsp]
  split
  · rfl
  · cases signedIndex? 17 c.registers.sp with
    | none => rfl
    | some slot => rfl

theorem doCall_change (c : Computer) (target : Target) :
    (c.change φ g).doCall target = (c.doCall target).onState (change φ g) := by
  have hsp : (c.change φ g).registers.sp = c.registers.sp := rfl
  have hpc : (c.change φ g).registers.pc = c.registers.pc := rfl
  simp only [doCall, Registers.pokeSlot, hsp, hpc]
  split
  · rfl
  · cases signedIndex? 17 (c.registers.sp + 1) with
    | none => rfl
    | some slot =>
      cases Registers.word? c.registers.pc with
      | none => rfl
      | some word => rfl

theorem doJump_change (c : Computer) (target : Target) :
    (c.change φ g).doJump target = (c.doJump target).onState (change φ g) := by
  have hpc : (c.change φ g).registers.pc = c.registers.pc := rfl
  have hconfig : (c.change φ g).config = c.config := rfl
  simp only [doJump, hpc, hconfig]
  split
  · rfl
  · rfl

/-- **Before another background such an instruction does the same.** -/
theorem perform_change (c : Computer) (opcode : Int) (h : i.reachesBackground = false) :
    (c.change φ g).perform opcode i = (c.perform opcode i).onState (change φ g) := by
  cases i with
  | draw | getDelay | setDelay | setSound | storeDigits | storeRegisters | loadRegisters =>
    exact nomatch h
  | ret => exact c.doReturn_change
  | jump target => exact c.doJump_change target
  | call target => exact c.doCall_change target
  | skip condition =>
    have hmeets : (c.change φ g).meets condition = c.meets condition := by cases condition <;> rfl
    simp only [perform, hmeets]
    split
    · rfl
    · rfl
  | arithmetic a x y =>
    have hv : ∀ x, (c.change φ g).v x = c.v x := fun _ ↦ rfl
    simp only [perform, doArithmetic, hv]
    cases a.flag? (c.v x) (c.v y) with
    | none => rfl
    | some flag => rfl
  | awaitKey x =>
    have hkeypad : (c.change φ g).keypad = c.keypad := rfl
    simp only [perform, doAwaitKey, hkeypad]
    cases c.keypad.lowest with
    | none => rfl
    | some key => rfl
  | _ => rfl

/-! ### Instructions that work on a block of memory

What they do depends on the memory through the outcome of one run of accesses alone. -/

theorem doDraw_change (c : Computer) (x y : Reg) {rows : Fin 16}
    (h : (φ c.memory).readAll (blockAddresses c.registers.i rows) =
      c.memory.readAll (blockAddresses c.registers.i rows)) :
    (c.change φ g).doDraw x y rows = (c.doDraw x y rows).onState (change φ g) := by
  have hread : (c.change φ g).memory.readAll
      ((List.range rows).map fun (k : Nat) ↦ wrap16 ((c.change φ g).registers.i + k)) =
        c.memory.readAll ((List.range rows).map fun (k : Nat) ↦ wrap16 (c.registers.i + k)) := h
  have hv : ∀ x, (c.change φ g).v x = c.v x := fun _ ↦ rfl
  have hscreen : (c.change φ g).screen = c.screen := rfl
  simp only [doDraw, hread, hv, hscreen]
  split
  · rfl
  · split
    · rfl
    · rfl

theorem doLoadRegisters_change (c : Computer) {x : Reg}
    (h : (φ c.memory).readAll (blockAddresses c.registers.i (x + 1)) =
      c.memory.readAll (blockAddresses c.registers.i (x + 1))) :
    (c.change φ g).doLoadRegisters x = (c.doLoadRegisters x).onState (change φ g) := by
  rw [doLoadRegisters_eq_goOn, doLoadRegisters_eq_goOn,
    show (c.change φ g).memory.readAll (blockAddresses (c.change φ g).registers.i (x + 1)) =
      c.memory.readAll (blockAddresses c.registers.i (x + 1)) from h]
  obtain ⟨bytes, cause⟩ := c.memory.readAll (blockAddresses c.registers.i (x + 1))
  have hv : (c.change φ g).registers.v = c.registers.v := rfl
  simp only [Registers.setFirst, hv]
  -- Which registers are loaded does not matter, and is not to be computed.
  generalize Vector.ofFn (fun k : Fin 16 ↦ bytes.getD k (c.registers.v.get k)) = loaded
  cases cause with
  | none => rfl
  | some cause => rfl

theorem afterStore_change (c : Computer) (run : Memory × Option Fault.Cause) :
    (c.change φ g).afterStore (φ run.1, run.2) = (c.afterStore run).onState (change φ g) := by
  obtain ⟨memory, cause⟩ := run
  cases cause with
  | none => rfl
  | some cause => rfl

end Computer

end ChipEight
