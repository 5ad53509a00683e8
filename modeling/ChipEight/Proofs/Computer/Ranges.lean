import ChipEight.Computer.Execute
import ChipEight.Proofs.Screen.Drawing

/-!
# The ranges a computer keeps to

Most registers are whole numbers that nothing confines: a jump stores any sum, a call raises the
stack pointer, and both can be set from outside. `Registers.InRange` says between which bounds they
stay as long as only the machine itself works on them, and `WellFormed` adds a screen with pixels.
The byte registers, the slots, the bytes of the memory and the pixels are within their ranges by
their types.

**The bounds hold only together.** A return leaves the stack pointer on a slot or at 255 because it
found it on a slot; the bottom slot stays zero because a call raises the pointer before it stores;
and a call can store the program counter only because that fits a slot.
-/

namespace ChipEight

/-- The slot below the first return address, which only a return on an empty stack reads. -/
def bottomSlot : Fin 17 := ⟨0, by decide⟩

namespace Registers

/-- The ranges of the registers that are whole numbers, and the bottom slot. -/
structure InRange (r : Registers) : Prop where
  pc_nonneg : 0 ≤ r.pc
  pc_le : r.pc ≤ 0xFFFF
  i_nonneg : 0 ≤ r.i
  i_le : r.i ≤ 0xFFFF
  /-- The stack pointer stands on a slot, or it was lowered below the bottom one. -/
  sp_range : (0 ≤ r.sp ∧ r.sp ≤ 16) ∨ r.sp = 255
  bottom_eq : r.stack.get bottomSlot = 0
  delay_nonneg : 0 ≤ r.delay
  delay_le : r.delay ≤ 255
  sound_nonneg : 0 ≤ r.sound
  sound_le : r.sound ≤ 255

/-- The registers behind a return that reads `slot`. -/
def pop (r : Registers) (slot : Fin 17) : Registers :=
  { r with pc := wrap16 ((r.stack.get slot).toNat + 2), sp := (r.sp - 1) % 256 }

/-- The registers behind a call that stores to `slot`. -/
def push (r : Registers) (slot : Fin 17) (target : Target) : Registers :=
  { r with sp := r.sp + 1, stack := setAt r.stack slot (UInt16.ofInt r.pc), pc := target }

/-- The registers behind a load: those for which there is a byte have it. -/
theorem v_setFirst (r : Registers) (bytes : List UInt8) (k : Reg) :
    (r.setFirst bytes).v.get k = bytes.getD k (r.v.get k) := by
  show (Vector.ofFn fun k : Fin 16 ↦ bytes.getD k (r.v.get k))[k.val] = _
  rw [Vector.getElem_ofFn]

@[simp] theorem i_setFirst (r : Registers) (bytes : List UInt8) :
    (r.setFirst bytes).i = r.i := by
  rw [setFirst]

@[simp] theorem pc_setFirst (r : Registers) (bytes : List UInt8) :
    (r.setFirst bytes).pc = r.pc := by
  rw [setFirst]

@[simp] theorem sp_setFirst (r : Registers) (bytes : List UInt8) :
    (r.setFirst bytes).sp = r.sp := by
  rw [setFirst]

@[simp] theorem stack_setFirst (r : Registers) (bytes : List UInt8) :
    (r.setFirst bytes).stack = r.stack := by
  rw [setFirst]

variable {r : Registers}

namespace InRange

theorem initial {pc : Int} (h0 : 0 ≤ pc) (hle : pc ≤ 0xFFFF) : (Registers.initial pc).InRange where
  pc_nonneg := h0
  pc_le := hle
  i_nonneg := Int.le_refl 0
  i_le := by show (0 : Int) ≤ 0xFFFF; decide
  sp_range := Or.inl ⟨Int.le_refl 0, by show (0 : Int) ≤ 16; decide⟩
  bottom_eq := by show (Vector.replicate 17 (0 : UInt16)).get bottomSlot = 0; decide
  delay_nonneg := Int.le_refl 0
  delay_le := by show (0 : Int) ≤ 255; decide
  sound_nonneg := Int.le_refl 0
  sound_le := by show (0 : Int) ≤ 255; decide

theorem i_lt (h : r.InRange) : r.i < 65536 := Int.lt_of_le_of_lt h.i_le (by decide)

/-- The byte registers have no part in the ranges. -/
theorem withV (h : r.InRange) (v : Vector UInt8 16) : ({ r with v := v } : Registers).InRange :=
  { h with }

theorem setV (h : r.InRange) (x : Reg) (value : UInt8) : (r.setV x value).InRange := h.withV _

theorem setFirst (h : r.InRange) (bytes : List UInt8) : (r.setFirst bytes).InRange := h.withV _

theorem next (h : r.InRange) : r.next.InRange :=
  { h with
    pc_nonneg := wrap16_nonneg _
    pc_le := Int.le_of_lt_add_one (wrap16_lt _) }

theorem jump (h : r.InRange) {pc : Int} (h0 : 0 ≤ pc) (hle : pc ≤ 0xFFFF) :
    (r.jump pc).InRange :=
  { h with
    pc_nonneg := h0
    pc_le := hle }

theorem setI (h : r.InRange) {i : Int} (h0 : 0 ≤ i) (hle : i ≤ 0xFFFF) :
    ({ r with i := i } : Registers).InRange :=
  { h with
    i_nonneg := h0
    i_le := hle }

theorem setDelay (h : r.InRange) (value : UInt8) :
    ({ r with delay := value.toNat } : Registers).InRange :=
  { h with
    delay_nonneg := Int.natCast_nonneg _
    delay_le := by
      have := value.toNat_lt
      show (value.toNat : Int) ≤ 255
      omega }

theorem setSound (h : r.InRange) (value : UInt8) :
    ({ r with sound := value.toNat } : Registers).InRange :=
  { h with
    sound_nonneg := Int.natCast_nonneg _
    sound_le := by
      have := value.toNat_lt
      show (value.toNat : Int) ≤ 255
      omega }

theorem countDown (h : r.InRange) : r.countDown.InRange := by
  have hd0 := h.delay_nonneg
  have hd := h.delay_le
  have hs0 := h.sound_nonneg
  have hs := h.sound_le
  refine { h with delay_nonneg := ?_, delay_le := ?_, sound_nonneg := ?_, sound_le := ?_ }
  all_goals
    simp only [Registers.countDown]
    split <;> omega

/-- The pointer stands on a slot, or at 255. -/
theorem sp_cases (h : r.InRange) : (∃ slot : Fin 17, r.sp = slot.val) ∨ r.sp = 255 := by
  rcases h.sp_range with ⟨h0, hle⟩ | h255
  · exact Or.inl ⟨⟨r.sp.toNat, by omega⟩, (Int.toNat_of_nonneg h0).symm⟩
  · exact Or.inr h255

/-- There is a slot above the pointer, **and it is not the bottom one**, or there is no room. -/
theorem room_cases (h : r.InRange) :
    (∃ slot : Fin 17, slot ≠ bottomSlot ∧ r.sp + 1 = slot.val) ∨ 16 ≤ r.sp := by
  by_cases hlt : r.sp < 16
  · have h0 := h.sp_range
    refine Or.inl ⟨⟨(r.sp + 1).toNat, by omega⟩, fun heq ↦ ?_, ?_⟩
    · have := congrArg Fin.val heq
      simp only [bottomSlot] at this
      omega
    · show r.sp + 1 = ((r.sp + 1).toNat : Int)
      omega
  · exact Or.inr (by omega)

theorem pop (h : r.InRange) {slot : Fin 17} (hslot : r.sp = slot.val) : (r.pop slot).InRange :=
  { h with
    pc_nonneg := wrap16_nonneg _
    pc_le := Int.le_of_lt_add_one (wrap16_lt _)
    sp_range := by
      have := slot.isLt
      show (0 ≤ (r.sp - 1) % 256 ∧ (r.sp - 1) % 256 ≤ 16) ∨ (r.sp - 1) % 256 = 255
      omega }

theorem push (h : r.InRange) {slot : Fin 17} (hne : slot ≠ bottomSlot) (hslot : r.sp + 1 = slot.val)
    (target : Target) : (r.push slot target).InRange :=
  { h with
    pc_nonneg := Int.natCast_nonneg _
    pc_le := by
      have := target.isLt
      show (target.val : Int) ≤ 0xFFFF
      omega
    sp_range := by
      have hlt := slot.isLt
      have h0 := h.sp_range
      show (0 ≤ r.sp + 1 ∧ r.sp + 1 ≤ 16) ∨ r.sp + 1 = 255
      omega
    bottom_eq := by
      show (setAt r.stack slot (UInt16.ofInt r.pc)).get bottomSlot = 0
      rw [get_setAt, if_neg hne]
      exact h.bottom_eq }

end InRange

end Registers

namespace Computer

/-- The registers are within their ranges and the screen has pixels. -/
structure WellFormed (c : Computer) : Prop where
  registers : c.registers.InRange
  screen : c.screen.HasPixels

/-- A computer as plain as can be: a blank screen, every key up, no sink, and a clock that stands
still. -/
def plain (registers : Registers) (memory : Memory) : Computer where
  config := {}
  memory := memory
  screen := .standard
  keypad := .allUp
  clock := ⟨fun _ _ ↦ .ok 0, 0, 0⟩
  registers := registers
  random := .seeded (.fixed 0)
  timer := .started Timer.standardPeriod 0
  sink := none
  timerSink := none
  hires := false
  waiting := false
  lastOpcode := 0
  lastFault := none

theorem wellFormed_plain {registers : Registers} (h : registers.InRange) (memory : Memory) :
    (plain registers memory).WellFormed :=
  ⟨h, .standard⟩

end Computer

end ChipEight
