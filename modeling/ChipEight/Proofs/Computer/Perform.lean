import ChipEight.Proofs.Computer.Ranges
import ChipEight.Proofs.Instruction.Words
import ChipEight.Proofs.Memory.Block

/-!
# What single instructions do

The laws of `perform` that everything about steps and runs is built from. Most instructions cannot
fail and are as their definitions say; the first section gives the others an equation for each way
they can go, **under the ranges a computer keeps to**. From these follow

* that every instruction keeps the ranges (`WellFormed.perform`);
* which instruction is stopped by what (`halt_perform`): a return and a call by the stack pointer,
  a drawing, a store and a load by their block of memory, and **nothing else by anything**.
-/

namespace ChipEight.Computer

open Instruction

variable {c c' : Computer}

/-! ### Instructions that can be stopped -/

theorem doReturn_eq_faulted (h : 16 < c.registers.sp) : c.doReturn = .faulted c .badReturn :=
  if_pos h

theorem doReturn_eq_done {slot : Fin 17} (h : c.registers.sp = slot.val) :
    c.doReturn = .done { c with registers := c.registers.pop slot } := by
  have hlt := slot.isLt
  have hok : ¬ (stackDepth : Int) < c.registers.sp := by
    show ¬ (16 : Int) < c.registers.sp
    omega
  simp only [doReturn, if_neg hok]
  rw [h, signedIndex?_natCast hlt, ← h]
  rfl

theorem doCall_eq_faulted (h : 16 ≤ c.registers.sp) (target : Target) :
    c.doCall target = .faulted c (.noRoomForCall target) :=
  if_pos h

theorem doCall_eq_done (h0 : 0 ≤ c.registers.pc) (hle : c.registers.pc ≤ 0xFFFF)
    {slot : Fin 17} (h : c.registers.sp + 1 = slot.val) (target : Target) :
    c.doCall target = .done { c with registers := c.registers.push slot target } := by
  have hlt := slot.isLt
  have hok : ¬ (stackDepth : Int) ≤ c.registers.sp := by
    show ¬ (16 : Int) ≤ c.registers.sp
    omega
  have hword : Registers.word? c.registers.pc = some (UInt16.ofInt c.registers.pc) :=
    if_pos ⟨h0, by omega⟩
  simp only [doCall, if_neg hok, Registers.pokeSlot]
  rw [h, signedIndex?_natCast hlt]
  simp only [hword, ← h]
  rfl

/-- Goes on behind an instruction, unless something has stopped it. -/
def goOn (c : Computer) : Option Fault.Cause → Outcome Halt Computer
  | some cause => .faulted c cause
  | none => .done c.next

theorem halt_goOn (c : Computer) (cause : Option Fault.Cause) :
    (c.goOn cause).halt = cause.map fun cause ↦ .fault { cause } := by
  cases cause <;> rfl

/-- What was not stopped has gone on. -/
theorem goOn_eq_done {cause : Option Fault.Cause} (hdone : (c.goOn cause).halt = none) :
    cause = none ∧ c.goOn cause = .done c.next := by
  rcases cause with - | cause
  · exact ⟨rfl, rfl⟩
  · cases hdone

theorem afterStore_eq_goOn (c : Computer) (run : Memory × Option Fault.Cause) :
    c.afterStore run = { c with memory := run.1 }.goOn run.2 := by
  obtain ⟨memory, cause⟩ := run
  cases cause <;> rfl

/-- The computer with a drawn screen and the collision in the flag register. -/
def drawn (c : Computer) (screen : Screen) (collision : Bool) : Computer :=
  { c with screen := screen }.setFlag collision

/-- The points that the sprite rows at `I` turn over. -/
def spriteAt (c : Computer) (x y : Reg) (rows : List UInt8) : List (Int × Int) :=
  Screen.spritePoints (c.v x).toNat (c.v y).toNat rows

/-- **A drawing is stopped by its block of memory alone**, and the rows read by then are drawn. -/
theorem exists_doDraw_eq (h : c.screen.HasPixels) (x y : Reg) (rows : Fin 16) :
    let run := c.memory.readAll (blockAddresses c.registers.i rows)
    ∃ screen collision, c.screen.TurnsOver (c.spriteAt x y run.1) screen collision ∧
      c.doDraw x y rows = (c.drawn screen collision).goOn run.2 := by
  intro run
  obtain ⟨screen, collision, hplot, hturns⟩ := Screen.exists_turnsOver h (c.spriteAt x y run.1)
  refine ⟨screen, collision, hturns, ?_⟩
  simp only [run, spriteAt, blockAddresses] at hplot
  simp only [doDraw, hplot]
  cases hcause : run.2 with
  | none => simp only [run, blockAddresses] at hcause; simp only [hcause]; rfl
  | some cause => simp only [run, blockAddresses] at hcause; simp only [hcause]; rfl

theorem doGetDelay_eq_done (h : c.registers.InRange) (x : Reg) :
    c.doGetDelay x = .done (c.setV x (UInt8.ofInt c.registers.delay)).next := by
  have hd0 := h.delay_nonneg
  have hd := h.delay_le
  have hbyte : Registers.byte? c.registers.delay = some (UInt8.ofInt c.registers.delay) :=
    if_pos ⟨hd0, by omega⟩
  rw [doGetDelay, hbyte]

/-- The decimal digits of a byte, the hundreds first. -/
def digits (value : UInt8) : List UInt8 :=
  [UInt8.ofNat (value.toNat / 100), UInt8.ofNat (value.toNat % 100 / 10),
    UInt8.ofNat (value.toNat % 10)]

/-- The registers `V0` to `Vx`. -/
def firstRegisters (c : Computer) (x : Reg) : List UInt8 := c.registers.v.toList.take (x + 1)

theorem length_firstRegisters (c : Computer) (x : Reg) : (c.firstRegisters x).length = x + 1 := by
  have := x.isLt
  rw [firstRegisters, List.length_take, Vector.length_toList]
  omega

/-- The first address of the digits is not wrapped, but **in range that makes no difference**. -/
theorem doStoreDigits_eq_goOn (h : c.registers.InRange) (x : Reg) :
    let run := c.memory.writeAll (blockAt c.registers.i (digits (c.v x)))
    c.doStoreDigits x = { c with memory := run.1 }.goOn run.2 := by
  intro run
  have hi : wrap16 c.registers.i = c.registers.i := wrap16_eq_self h.i_nonneg h.i_lt
  have hrun : run = c.memory.writeAll
      [(c.registers.i, UInt8.ofNat ((c.v x).toNat / 100)),
        (wrap16 (c.registers.i + 1), UInt8.ofNat ((c.v x).toNat % 100 / 10)),
        (wrap16 (c.registers.i + 2), UInt8.ofNat ((c.v x).toNat % 10))] := by
    simp only [run, digits, blockAt_cons, hi, Int.add_assoc]
    rfl
  rw [hrun, ← afterStore_eq_goOn]
  rfl

theorem doStoreRegisters_eq_goOn (c : Computer) (x : Reg) :
    let run := c.memory.writeAll (blockAt c.registers.i (c.firstRegisters x))
    c.doStoreRegisters x = { c with memory := run.1 }.goOn run.2 :=
  afterStore_eq_goOn c _

theorem doLoadRegisters_eq_goOn (c : Computer) (x : Reg) :
    let run := c.memory.readAll (blockAddresses c.registers.i (x + 1))
    c.doLoadRegisters x = { c with registers := c.registers.setFirst run.1 }.goOn run.2 := by
  intro run
  unfold doLoadRegisters
  cases hcause : run.2 with
  | none => simp only [run, blockAddresses] at hcause; simp only [hcause]; rfl
  | some cause => simp only [run, blockAddresses] at hcause; simp only [hcause]; rfl

/-! ### The ranges -/

/-- The stack pointer of a well-formed computer decides how a return goes. -/
theorem doReturn_cases (h : c.registers.InRange) :
    c.doReturn = .faulted c .badReturn ∨
      ∃ slot : Fin 17, c.registers.sp = slot.val ∧
        c.doReturn = .done { c with registers := c.registers.pop slot } := by
  rcases h.sp_cases with ⟨slot, hslot⟩ | h255
  · exact Or.inr ⟨slot, hslot, doReturn_eq_done hslot⟩
  · exact Or.inl (doReturn_eq_faulted (by omega))

/-- And how a call goes. -/
theorem doCall_cases (h : c.registers.InRange) (target : Target) :
    c.doCall target = .faulted c (.noRoomForCall target) ∨
      ∃ slot : Fin 17, slot ≠ bottomSlot ∧ c.registers.sp + 1 = slot.val ∧
        c.doCall target = .done { c with registers := c.registers.push slot target } := by
  rcases h.room_cases with ⟨slot, hne, hslot⟩ | hfull
  · exact Or.inr ⟨slot, hne, hslot, doCall_eq_done h.pc_nonneg h.pc_le hslot target⟩
  · exact Or.inl (doCall_eq_faulted hfull target)

theorem WellFormed.goOn (h : c.WellFormed) (cause : Option Fault.Cause) :
    (c.goOn cause).state.WellFormed := by
  cases cause with
  | none => exact ⟨h.registers.next, h.screen⟩
  | some cause => exact h

theorem WellFormed.doArithmetic (h : c.WellFormed) (a : Arithmetic) (x y : Reg) :
    (c.doArithmetic a x y).WellFormed := by
  rw [Computer.doArithmetic]
  cases a.flag? (c.v x) (c.v y) with
  | none => exact ⟨h.registers.setV x _, h.screen⟩
  | some flag => exact ⟨(h.registers.setV flagReg _).setV x _, h.screen⟩

theorem WellFormed.doAwaitKey (h : c.WellFormed) (x : Reg) : (c.doAwaitKey x).WellFormed := by
  rw [Computer.doAwaitKey]
  cases c.keypad.lowest with
  | none => exact ⟨h.registers, h.screen⟩
  | some key => exact ⟨(h.registers.setV x _).next, h.screen⟩

theorem WellFormed.doJump (h : c.WellFormed) (target : Target) :
    (c.doJump target).state.WellFormed := by
  have htarget := target.isLt
  rw [Computer.doJump]
  split
  · exact ⟨h.registers.jump (by decide) (by decide), .highResolution⟩
  · exact ⟨h.registers.jump (Int.natCast_nonneg _) (by omega), h.screen⟩

/-- **Every instruction keeps the ranges**, also one that is stopped. -/
theorem WellFormed.perform (h : c.WellFormed) (opcode : Int) (i : Instruction) :
    (c.perform opcode i).state.WellFormed := by
  cases i with
  | clearScreen => exact ⟨h.registers.next, h.screen.of_sides rfl rfl⟩
  | ret =>
    rw [Computer.perform]
    rcases doReturn_cases h.registers with heq | ⟨slot, hslot, heq⟩
    · rw [heq]; exact h
    · rw [heq]; exact ⟨h.registers.pop hslot, h.screen⟩
  | sys => exact ⟨h.registers.next, h.screen⟩
  | jump target => exact h.doJump target
  | call target =>
    rw [Computer.perform]
    rcases doCall_cases h.registers target with heq | ⟨slot, hne, hslot, heq⟩
    · rw [heq]; exact h
    · rw [heq]; exact ⟨h.registers.push hne hslot target, h.screen⟩
  | skip condition =>
    rw [Computer.perform]
    split
    · exact ⟨h.registers.next.next, h.screen⟩
    · exact ⟨h.registers.next, h.screen⟩
  | setByte x k | addByte x k => exact ⟨(h.registers.setV x _).next, h.screen⟩
  | arithmetic a x y => exact (h.doArithmetic a x y).goOn none
  | setI target =>
    have htarget := target.isLt
    exact ⟨(h.registers.setI (Int.natCast_nonneg _) (by omega)).next, h.screen⟩
  | jumpPlusV0 target =>
    have htarget := target.isLt
    have hbyte := (c.v firstReg).toNat_lt
    exact ⟨h.registers.jump (by omega) (by omega), h.screen⟩
  | random x mask => exact ⟨(h.registers.setV x _).next, h.screen⟩
  | draw x y rows =>
    obtain ⟨screen, collision, hturns, heq⟩ := exists_doDraw_eq h.screen x y rows
    rw [Computer.perform, heq]
    refine WellFormed.goOn ?_ _
    exact ⟨h.registers.setV flagReg _, h.screen.of_sides hturns.width_eq hturns.height_eq⟩
  | getDelay x =>
    rw [Computer.perform, doGetDelay_eq_done h.registers]
    exact ⟨(h.registers.setV x _).next, h.screen⟩
  | awaitKey x => exact h.doAwaitKey x
  | setDelay x => exact ⟨(h.registers.setDelay (c.v x)).next, h.screen⟩
  | setSound x => exact ⟨(h.registers.setSound (c.v x)).next, h.screen⟩
  | addToI x =>
    exact ⟨(h.registers.setI (wrap16_nonneg _) (Int.le_of_lt_add_one (wrap16_lt _))).next,
      h.screen⟩
  | fontSprite x =>
    -- The last sprite a register can name begins at `255 * 5`.
    have hbyte := (c.v x).toNat_lt
    have hle : Font.start + (c.v x).toNat * Font.height ≤ 0xFFFF := by
      rw [Font.start, Font.height]
      omega
    exact ⟨(h.registers.setI (Int.natCast_nonneg _) (Int.ofNat_le.2 hle)).next, h.screen⟩
  | storeDigits x =>
    rw [Computer.perform, doStoreDigits_eq_goOn h.registers]
    refine WellFormed.goOn ?_ _
    exact ⟨h.registers, h.screen⟩
  | storeRegisters x =>
    rw [Computer.perform, doStoreRegisters_eq_goOn]
    refine WellFormed.goOn ?_ _
    exact ⟨h.registers, h.screen⟩
  | loadRegisters x =>
    rw [Computer.perform, doLoadRegisters_eq_goOn]
    refine WellFormed.goOn ?_ _
    exact ⟨h.registers.setFirst _, h.screen⟩

/-! ### What stops an instruction -/

/-- What keeps an instruction from its end, if anything does. -/
def obstacle (c : Computer) : Instruction → Option Fault.Cause
  | .ret => if 16 < c.registers.sp then some .badReturn else none
  | .call target => if 16 ≤ c.registers.sp then some (.noRoomForCall target) else none
  | .draw _ _ rows => (c.memory.readAll (blockAddresses c.registers.i rows)).2
  | .storeDigits x => (c.memory.writeAll (blockAt c.registers.i (digits (c.v x)))).2
  | .storeRegisters x => (c.memory.writeAll (blockAt c.registers.i (c.firstRegisters x))).2
  | .loadRegisters x => (c.memory.readAll (blockAddresses c.registers.i (x + 1))).2
  | _ => none

/-- **An instruction of a well-formed computer is stopped by its obstacle and by nothing else**: no
position is ever outside a table, no number too large for its cell, no side of the screen zero. -/
theorem halt_perform (hc : c.WellFormed) (opcode : Int) (i : Instruction) :
    (c.perform opcode i).halt = (c.obstacle i).map fun cause ↦ .fault { cause } := by
  cases i with
  | ret =>
    rw [perform, obstacle]
    rcases hc.registers.sp_cases with ⟨slot, hslot⟩ | h255
    · have hlt := slot.isLt
      rw [doReturn_eq_done hslot, if_neg (by omega)]
      rfl
    · rw [doReturn_eq_faulted (by omega), if_pos (by omega)]
      rfl
  | call target =>
    rw [perform, obstacle]
    rcases hc.registers.room_cases with ⟨slot, -, hslot⟩ | hfull
    · have hlt := slot.isLt
      rw [doCall_eq_done hc.registers.pc_nonneg hc.registers.pc_le hslot, if_neg (by omega)]
      rfl
    · rw [doCall_eq_faulted hfull, if_pos hfull]
      rfl
  | jump target =>
    rw [perform, doJump]
    split <;> rfl
  | draw x y rows =>
    obtain ⟨screen, collision, -, h⟩ := exists_doDraw_eq hc.screen x y rows
    rw [perform, h, halt_goOn]
    rfl
  | getDelay x =>
    rw [perform, doGetDelay_eq_done hc.registers]
    rfl
  | storeDigits x =>
    rw [perform, doStoreDigits_eq_goOn hc.registers, halt_goOn]
    rfl
  | storeRegisters x =>
    rw [perform, doStoreRegisters_eq_goOn, halt_goOn]
    rfl
  | loadRegisters x =>
    rw [perform, doLoadRegisters_eq_goOn, halt_goOn]
    rfl
  | _ => rfl

/-- The obstacles are of two families. -/
theorem kind_of_obstacle {i : Instruction} {cause : Fault.Cause} (h : c.obstacle i = some cause) :
    cause.kind = .memory ∨ cause.kind = .stack := by
  cases i with
  | ret =>
    obtain ⟨-, heq⟩ := Option.ite_none_right_eq_some.1 h
    cases heq
    exact Or.inr rfl
  | call target =>
    obtain ⟨-, heq⟩ := Option.ite_none_right_eq_some.1 h
    cases heq
    exact Or.inr rfl
  | draw x y rows | loadRegisters x =>
    obtain ⟨address, rfl⟩ := Memory.cause_of_readAll h
    exact Or.inl rfl
  | storeDigits x | storeRegisters x =>
    obtain ⟨address, rfl⟩ := Memory.cause_of_writeAll h
    exact Or.inl rfl
  | _ => exact nomatch h

/-- **In a small memory the block decides**, for every instruction that is not stopped by the stack
pointer: an instruction that works on no memory has an empty block. -/
theorem obstacle_eq_blockFault (hc : c.WellFormed) (hsmall : c.memory.capacity < 65536)
    {i : Instruction} (hret : i ≠ .ret) (hcall : ∀ target, i ≠ .call target) :
    c.obstacle i = c.memory.blockFault c.registers.i i.span := by
  have h0 := hc.registers.i_nonneg
  have hlt := hc.registers.i_lt
  cases i with
  | ret => exact absurd rfl hret
  | call target => exact absurd rfl (hcall target)
  | draw x y rows => exact Memory.fault_readAll_blockAddresses hsmall h0 hlt rows
  | loadRegisters x => exact Memory.fault_readAll_blockAddresses hsmall h0 hlt (x + 1)
  | storeDigits x =>
    rw [obstacle, Memory.writeAll_blockAt hsmall h0 hlt, Memory.fault_load h0]
    rfl
  | storeRegisters x =>
    rw [obstacle, Memory.writeAll_blockAt hsmall h0 hlt, Memory.fault_load h0,
      length_firstRegisters]
    rfl
  | _ => rfl

/-- So an instruction that is stopped by its block has one, and it **reaches beyond the end**. -/
theorem block_of_obstacle (hc : c.WellFormed) (hsmall : c.memory.capacity < 65536)
    {i : Instruction} {cause : Fault.Cause} (h : c.obstacle i = some cause) (hret : i ≠ .ret)
    (hcall : ∀ target, i ≠ .call target) :
    0 < i.span ∧ c.memory.capacity < c.registers.i + i.span ∧
      cause = c.memory.faultAt (max c.registers.i c.memory.capacity) := by
  rw [obstacle_eq_blockFault hc hsmall hret hcall, Memory.blockFault] at h
  obtain ⟨hblock, heq⟩ := Option.ite_none_left_eq_some.1 h
  exact ⟨by omega, by omega, (Option.some.inj heq).symm⟩

end ChipEight.Computer
