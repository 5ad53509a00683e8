import ChipEight.Proofs.Computer.Perform

/-!
# What single instructions can touch

Most instructions work on **data alone** (`Instruction.worksOnData`): the registers, the bytes of
the memory and the pixels. The other five work on the machine as well: a return and a call on the
stack, a jump on the mode of the screen, a random byte on its source, and a key wait on the flag
that says so. `perform_sameButData` settles all the first ones at once, so that a claim about the
stack, a flag or the source has to be argued for the five alone.

`perform_leavesAlone` is what no instruction touches. Nothing is asked of the computer: it may be
out of its ranges, and **the instruction may be stopped** by a fault or by the host.
-/

namespace ChipEight

namespace Instruction

/-- The instructions that work on data alone. -/
def worksOnData : Instruction → Bool
  | ret => false
  | jump _ => false
  | call _ => false
  | random .. => false
  | awaitKey _ => false
  | _ => true

end Instruction

namespace Computer

open Instruction

variable {c c' : Computer} {i : Instruction}

/-! ### Instructions that work on data -/

/-- Only data was changed: the stack is the same, the memory is as large as before, and everything
that is neither a register nor memory nor screen is as it was. -/
structure SameButData (c c' : Computer) : Prop where
  sp_eq : c'.registers.sp = c.registers.sp
  stack_eq : c'.registers.stack = c.registers.stack
  capacity_eq : c'.memory.capacity = c.memory.capacity
  rest_eq : c' =
    { c with registers := c'.registers, memory := c'.memory, screen := c'.screen }

theorem SameButData.trans {c'' : Computer} (h : c.SameButData c') (h' : c'.SameButData c'') :
    c.SameButData c'' where
  sp_eq := h'.sp_eq.trans h.sp_eq
  stack_eq := h'.stack_eq.trans h.stack_eq
  capacity_eq := h'.capacity_eq.trans h.capacity_eq
  rest_eq := by
    rw [h'.rest_eq, h.rest_eq]

theorem SameButData.waiting_eq (h : c.SameButData c') : c'.waiting = c.waiting := by
  rw [h.rest_eq]

theorem sameButData_goOn (c : Computer) (cause : Option Fault.Cause) :
    c.SameButData (c.goOn cause).state := by
  rcases cause with - | cause
  · exact ⟨rfl, rfl, rfl, rfl⟩
  · exact ⟨rfl, rfl, rfl, rfl⟩

theorem sameButData_storing (c : Computer) (run : List (Int × UInt8)) :
    c.SameButData { c with memory := (c.memory.writeAll run).1 } :=
  ⟨rfl, rfl, Memory.capacity_writeAll c.memory run, rfl⟩

theorem sameButData_loading (c : Computer) (bytes : List UInt8) :
    c.SameButData { c with registers := c.registers.setFirst bytes } :=
  ⟨Registers.sp_setFirst _ _, Registers.stack_setFirst _ _, rfl, rfl⟩

theorem sameButData_doDraw (c : Computer) (x y : Reg) (rows : Fin 16) :
    c.SameButData (c.doDraw x y rows).state := by
  simp only [doDraw]
  split
  · exact ⟨rfl, rfl, rfl, rfl⟩
  · split
    · exact ⟨rfl, rfl, rfl, rfl⟩
    · exact ⟨rfl, rfl, rfl, rfl⟩

/-- **An instruction that works on data changes nothing but data**, also one that is stopped. -/
theorem perform_sameButData (c : Computer) (opcode : Int) (h : i.worksOnData = true) :
    c.SameButData (c.perform opcode i).state := by
  cases i with
  | ret | jump | call | random | awaitKey => exact nomatch h
  | skip condition =>
    rw [perform]
    split
    · exact ⟨rfl, rfl, rfl, rfl⟩
    · exact ⟨rfl, rfl, rfl, rfl⟩
  | arithmetic a x y =>
    rw [perform, doArithmetic]
    rcases a.flag? (c.v x) (c.v y) with - | flag
    · exact ⟨rfl, rfl, rfl, rfl⟩
    · exact ⟨rfl, rfl, rfl, rfl⟩
  | draw x y rows => exact c.sameButData_doDraw x y rows
  | getDelay x =>
    rw [perform, doGetDelay]
    rcases Registers.byte? c.registers.delay with - | byte
    · exact ⟨rfl, rfl, rfl, rfl⟩
    · exact ⟨rfl, rfl, rfl, rfl⟩
  | storeDigits x =>
    rw [perform, doStoreDigits, afterStore_eq_goOn]
    exact (c.sameButData_storing _).trans (sameButData_goOn _ _)
  | storeRegisters x =>
    rw [perform, doStoreRegisters, afterStore_eq_goOn]
    exact (c.sameButData_storing _).trans (sameButData_goOn _ _)
  | loadRegisters x =>
    rw [perform, doLoadRegisters_eq_goOn]
    exact (c.sameButData_loading _).trans (sameButData_goOn _ _)
  | _ => exact ⟨rfl, rfl, rfl, rfl⟩

/-! ### What no instruction touches -/

/-- What every instruction leaves alone: all but the registers, the bytes of the memory, the screen,
the random source and the two flags. -/
structure LeavesAlone (c c' : Computer) : Prop where
  config_eq : c'.config = c.config
  keypad_eq : c'.keypad = c.keypad
  clock_eq : c'.clock = c.clock
  timer_eq : c'.timer = c.timer
  sink_eq : c'.sink = c.sink
  timerSink_eq : c'.timerSink = c.timerSink
  lastOpcode_eq : c'.lastOpcode = c.lastOpcode
  lastFault_eq : c'.lastFault = c.lastFault
  capacity_eq : c'.memory.capacity = c.memory.capacity

/-- **A change of the other parts leaves them alone.** -/
theorem leavesAlone_parts (c : Computer) (registers : Registers) (screen : Screen)
    (random : RandomSource) (hires waiting : Bool) :
    c.LeavesAlone
      { c with
        registers := registers
        screen := screen
        random := random
        hires := hires
        waiting := waiting } :=
  ⟨rfl, rfl, rfl, rfl, rfl, rfl, rfl, rfl, rfl⟩

theorem SameButData.leavesAlone (h : c.SameButData c') : c.LeavesAlone c' := by
  obtain ⟨-, -, hcapacity, hrest⟩ := h
  rw [hrest]
  exact ⟨rfl, rfl, rfl, rfl, rfl, rfl, rfl, rfl, hcapacity⟩

/-- **A return and a call work on the registers alone**, also where they are stopped. -/
theorem exists_state_doReturn_eq (c : Computer) :
    ∃ registers, c.doReturn.state = { c with registers := registers } := by
  simp only [doReturn]
  split
  · exact ⟨c.registers, rfl⟩
  · rcases signedIndex? 17 c.registers.sp with - | slot
    · exact ⟨c.registers, rfl⟩
    · exact ⟨_, rfl⟩

theorem exists_state_doCall_eq (c : Computer) (target : Target) :
    ∃ registers, (c.doCall target).state = { c with registers := registers } := by
  simp only [doCall]
  split
  · exact ⟨c.registers, rfl⟩
  · -- The host may refuse to store the address, and the pointer is raised even so.
    split
    · exact ⟨_, rfl⟩
    · exact ⟨_, rfl⟩

theorem doReturn_leavesAlone (c : Computer) : c.LeavesAlone c.doReturn.state := by
  obtain ⟨registers, heq⟩ := c.exists_state_doReturn_eq
  rw [heq]
  exact c.leavesAlone_parts _ _ _ _ _

theorem doCall_leavesAlone (c : Computer) (target : Target) :
    c.LeavesAlone (c.doCall target).state := by
  obtain ⟨registers, heq⟩ := c.exists_state_doCall_eq target
  rw [heq]
  exact c.leavesAlone_parts _ _ _ _ _

theorem doJump_leavesAlone (c : Computer) (target : Target) :
    c.LeavesAlone (c.doJump target).state := by
  rw [doJump]
  split
  · exact c.leavesAlone_parts _ _ _ _ _
  · exact c.leavesAlone_parts _ _ _ _ _

theorem doAwaitKey_leavesAlone (c : Computer) (x : Reg) : c.LeavesAlone (c.doAwaitKey x) := by
  rw [doAwaitKey]
  rcases c.keypad.lowest with - | key
  · exact c.leavesAlone_parts _ _ _ _ _
  · exact c.leavesAlone_parts _ _ _ _ _

theorem perform_leavesAlone (c : Computer) (opcode : Int) (i : Instruction) :
    c.LeavesAlone (c.perform opcode i).state := by
  cases i with
  | ret => exact c.doReturn_leavesAlone
  | jump target => exact c.doJump_leavesAlone target
  | call target => exact c.doCall_leavesAlone target
  | random x mask => exact c.leavesAlone_parts _ _ _ _ _
  | awaitKey x => exact c.doAwaitKey_leavesAlone x
  | _ => exact (c.perform_sameButData opcode rfl).leavesAlone

/-! ### Who touches what of the machine -/

/-- **Calls and returns alone touch the stack**, whatever becomes of the others. -/
theorem stack_perform (c : Computer) (opcode : Int) (hret : i ≠ .ret)
    (hcall : ∀ target, i ≠ .call target) :
    (c.perform opcode i).state.registers.sp = c.registers.sp ∧
      (c.perform opcode i).state.registers.stack = c.registers.stack := by
  cases i with
  | ret => exact absurd rfl hret
  | call target => exact absurd rfl (hcall target)
  | jump target =>
    rw [perform, doJump]
    split
    · exact ⟨rfl, rfl⟩
    · exact ⟨rfl, rfl⟩
  | random x mask => exact ⟨rfl, rfl⟩
  | awaitKey x =>
    rw [perform, doAwaitKey]
    rcases c.keypad.lowest with - | key
    · exact ⟨rfl, rfl⟩
    · exact ⟨rfl, rfl⟩
  | _ =>
    exact ⟨(c.perform_sameButData opcode rfl).sp_eq, (c.perform_sameButData opcode rfl).stack_eq⟩

/-- **Key waits alone touch the flag that the machine waits.** -/
theorem waiting_perform (c : Computer) (opcode : Int) (h : ∀ x, i ≠ .awaitKey x) :
    (c.perform opcode i).state.waiting = c.waiting := by
  cases i with
  | ret =>
    obtain ⟨registers, heq⟩ := c.exists_state_doReturn_eq
    rw [perform, heq]
  | jump target =>
    rw [perform, doJump]
    split <;> rfl
  | call target =>
    obtain ⟨registers, heq⟩ := c.exists_state_doCall_eq target
    rw [perform, heq]
  | random x mask => rfl
  | awaitKey x => exact absurd rfl (h x)
  | _ => exact (c.perform_sameButData opcode rfl).waiting_eq

/-- **Jumps alone touch the mode.** -/
theorem hires_perform (c : Computer) (opcode : Int) (h : ∀ target, i ≠ .jump target) :
    (c.perform opcode i).state.hires = c.hires := by
  cases i with
  | ret =>
    obtain ⟨registers, heq⟩ := c.exists_state_doReturn_eq
    rw [perform, heq]
  | jump target => exact absurd rfl (h target)
  | call target =>
    obtain ⟨registers, heq⟩ := c.exists_state_doCall_eq target
    rw [perform, heq]
  | random x mask => rfl
  | awaitKey x =>
    rw [perform, doAwaitKey]
    rcases c.keypad.lowest with - | key <;> rfl
  | _ => rw [(c.perform_sameButData opcode rfl).rest_eq]

/-- **Random bytes alone are drawn from the source.** -/
theorem random_perform (c : Computer) (opcode : Int) (h : ∀ x mask, i ≠ .random x mask) :
    (c.perform opcode i).state.random = c.random := by
  cases i with
  | ret =>
    obtain ⟨registers, heq⟩ := c.exists_state_doReturn_eq
    rw [perform, heq]
  | jump target =>
    rw [perform, doJump]
    split <;> rfl
  | call target =>
    obtain ⟨registers, heq⟩ := c.exists_state_doCall_eq target
    rw [perform, heq]
  | random x mask => exact absurd rfl (h x mask)
  | awaitKey x =>
    rw [perform, doAwaitKey]
    rcases c.keypad.lowest with - | key <;> rfl
  | _ => rw [(c.perform_sameButData opcode rfl).rest_eq]

end Computer

end ChipEight
