import ChipEight.Proofs.Computer.Arithmetic
import ChipEight.Proofs.Computer.HighResolution
import ChipEight.Proofs.Computer.KeypadUse
import ChipEight.Proofs.Memory.Run
import ChipEight.Proofs.Timer.Rate

/-!
# What a word can change

The instruction set as a table of effects. `Effect` says of each instruction which data it sets: the
address register, the byte registers, the countdown registers and the bytes of the memory.
`effect_perform` is its proof, one case for each instruction, and asks nothing of the computer; **an
instruction that is stopped** has set no more than that.

`WordFootprint` is the table **by the digits of the word**, for the whole computer. A step leaves
the footprint of its word and at most one tick of the timer (`footprint_step`), and unless the word
asks for keys it commutes with them (`step_leaves_footprint`).

There is one address that a sixteen-bit register could not name. The digits of a number are stored
at `I` as it is and not at `I` wrapped. That makes a difference in a memory of more than `0x10000`
bytes alone, and only from outside can `I` be set to such a number.
-/

namespace ChipEight

/-- The operations that set the flag register as well. -/
def Arithmetic.setsFlag : Arithmetic → Bool
  | copy => false
  | or => false
  | and => false
  | xor => false
  | _ => true

theorem Arithmetic.setsFlag_of_flag? {op : Arithmetic} {a b : UInt8} {flag : Bool}
    (h : op.flag? a b = some flag) : op.setsFlag = true := by
  cases op with
  | copy | or | and | xor => cases h
  | _ => rfl

theorem Arithmetic.mem_flagDigits_of_setsFlag {digit : Nat} {op : Arithmetic}
    (h : ofDigit? digit = some op) (hflag : op.setsFlag = true) : digit ∈ flagDigits := by
  unfold ofDigit? at h
  split at h
  all_goals cases h
  -- Four of the operations have no flag.
  all_goals cases hflag
  all_goals decide

theorem Registers.delay_setFirst (r : Registers) (bytes : List UInt8) :
    (r.setFirst bytes).delay = r.delay := by
  rw [setFirst]

theorem Registers.sound_setFirst (r : Registers) (bytes : List UInt8) :
    (r.setFirst bytes).sound = r.sound := by
  rw [setFirst]

namespace Instruction

/-- The instructions that set the address register. -/
def setsI : Instruction → Bool
  | setI _ => true
  | addToI _ => true
  | fontSprite _ => true
  | _ => false

/-- The instruction sets the byte register `z`. -/
def SetsV : Instruction → Reg → Prop
  | setByte x _, z => z = x
  | addByte x _, z => z = x
  | arithmetic op x _, z => z = x ∨ (op.setsFlag = true ∧ z = flagReg)
  | random x _, z => z = x
  | draw .., z => z = flagReg
  | getDelay x, z => z = x
  | awaitKey x, z => z = x
  | loadRegisters x, z => z ≤ x
  | _, _ => False

end Instruction

namespace Computer

open Instruction

variable {c c' : Computer} {w : Nat} {i : Instruction}

/-! ### By the instruction -/

/-- The addresses that an instruction stores to. The digits begin at `I` as it is. -/
def storedAddresses (c : Computer) : Instruction → List Int
  | .storeDigits _ =>
    [c.registers.i, (c.registers.i + 1) % 65536, (c.registers.i + 2) % 65536]
  | .storeRegisters x => blockAddresses c.registers.i (x + 1)
  | _ => []

/-- The delay register behind an instruction. -/
def delayBehind (c : Computer) : Instruction → Int
  | .setDelay x => (c.v x).toNat
  | _ => c.registers.delay

/-- And the sound register. -/
def soundBehind (c : Computer) : Instruction → Int
  | .setSound x => (c.v x).toNat
  | _ => c.registers.sound

/-- What an instruction does to the data of the program: to the address register, the byte registers
and the memory where it is said to, and to the countdown registers what is said. -/
structure Effect (c : Computer) (i : Instruction) (c' : Computer) : Prop where
  i_eq : i.setsI = false → c'.registers.i = c.registers.i
  v_eq : ∀ z, ¬ i.SetsV z → c'.v z = c.v z
  delay_eq : c'.registers.delay = c.delayBehind i
  sound_eq : c'.registers.sound = c.soundBehind i
  read_eq : ∀ a, a ∉ c.storedAddresses i → c'.memory.read a = c.memory.read a

namespace Effect

theorem refl (hdelay : c.delayBehind i = c.registers.delay)
    (hsound : c.soundBehind i = c.registers.sound) : c.Effect i c :=
  ⟨fun _ ↦ rfl, fun _ _ ↦ rfl, hdelay.symm, hsound.symm, fun _ _ ↦ rfl⟩

theorem next (h : c.Effect i c') : c.Effect i c'.next :=
  ⟨h.i_eq, h.v_eq, h.delay_eq, h.sound_eq, h.read_eq⟩

theorem goOn (h : c.Effect i c') (cause : Option Fault.Cause) :
    c.Effect i (c'.goOn cause).state := by
  rcases cause with - | cause
  · exact h.next
  · exact h

theorem setV (h : c.Effect i c') {x : Reg} (hx : i.SetsV x) (value : UInt8) :
    c.Effect i (c'.setV x value) := by
  refine ⟨h.i_eq, fun z hz ↦ ?_, h.delay_eq, h.sound_eq, h.read_eq⟩
  have hne : x ≠ z := by
    rintro rfl
    exact hz hx
  rw [v_setV, if_neg hne]
  exact h.v_eq z hz

theorem setI (h : c.Effect i c') (hi : i.setsI = true) (value : Int) :
    c.Effect i (c'.setI value) :=
  ⟨fun hi' ↦ absurd (hi.symm.trans hi') Bool.noConfusion, h.v_eq, h.delay_eq, h.sound_eq, h.read_eq⟩

/-- **A run of stores is confined to its addresses.** -/
theorem storing (h : c.Effect i c) {run : List (Int × UInt8)}
    (hrun : run.map Prod.fst = c.storedAddresses i) :
    c.Effect i { c with memory := (c.memory.writeAll run).1 } := by
  refine ⟨h.i_eq, h.v_eq, h.delay_eq, h.sound_eq, fun a ha ↦ ?_⟩
  exact Memory.read_writeAll_outside (hrun ▸ ha)

/-- **A load is confined to the registers that there are bytes for.** -/
theorem loading (h : c.Effect i c) {bytes : List UInt8} {x : Reg} (hlength : bytes.length ≤ x + 1)
    (hx : ∀ z, z ≤ x → i.SetsV z) :
    c.Effect i { c with registers := c.registers.setFirst bytes } := by
  refine ⟨fun _ ↦ Registers.i_setFirst _ _, fun z hz ↦ ?_, ?_, ?_, h.read_eq⟩
  · have hgt : x + 1 ≤ z.val := Nat.lt_of_not_le fun hle ↦ hz (hx z hle)
    refine (Registers.v_setFirst _ _ _).trans ?_
    rw [List.getD_eq_getElem?_getD, List.getElem?_eq_none (by omega), Option.getD_none]
    rfl
  · exact (Registers.delay_setFirst _ _).trans h.delay_eq
  · exact (Registers.sound_setFirst _ _).trans h.sound_eq

end Effect

theorem effect_doReturn (c : Computer) : c.Effect .ret c.doReturn.state := by
  rw [doReturn]
  split
  · exact .refl rfl rfl
  · split
    · exact .refl rfl rfl
    · exact ⟨fun _ ↦ rfl, fun _ _ ↦ rfl, rfl, rfl, fun _ _ ↦ rfl⟩

theorem effect_doCall (c : Computer) (target : Target) :
    c.Effect (.call target) (c.doCall target).state := by
  simp only [doCall, Registers.pokeSlot]
  split
  · exact .refl rfl rfl
  · rcases signedIndex? 17 (c.registers.sp + 1) with - | slot
    · exact ⟨fun _ ↦ rfl, fun _ _ ↦ rfl, rfl, rfl, fun _ _ ↦ rfl⟩
    · rcases Registers.word? c.registers.pc with - | word
      · exact ⟨fun _ ↦ rfl, fun _ _ ↦ rfl, rfl, rfl, fun _ _ ↦ rfl⟩
      · exact ⟨fun _ ↦ rfl, fun _ _ ↦ rfl, rfl, rfl, fun _ _ ↦ rfl⟩

theorem effect_doJump (c : Computer) (target : Target) :
    c.Effect (.jump target) (c.doJump target).state := by
  rw [doJump]
  split
  · exact ⟨fun _ ↦ rfl, fun _ _ ↦ rfl, rfl, rfl, fun _ _ ↦ rfl⟩
  · exact ⟨fun _ ↦ rfl, fun _ _ ↦ rfl, rfl, rfl, fun _ _ ↦ rfl⟩

theorem effect_doArithmetic (c : Computer) (op : Arithmetic) (x y : Reg) :
    c.Effect (.arithmetic op x y) (c.doArithmetic op x y) := by
  have hsame : c.Effect (.arithmetic op x y) c := .refl rfl rfl
  rw [doArithmetic]
  rcases hflag : op.flag? (c.v x) (c.v y) with - | flag
  · exact hsame.setV (Or.inl rfl) _
  · have hsets : op.setsFlag = true := Arithmetic.setsFlag_of_flag? hflag
    exact (hsame.setV (Or.inr ⟨hsets, rfl⟩) _).setV (Or.inl rfl) _

theorem effect_doDraw (c : Computer) (x y : Reg) (rows : Fin 16) :
    c.Effect (.draw x y rows) (c.doDraw x y rows).state := by
  have hdrawn : ∀ screen, c.Effect (.draw x y rows) { c with screen := screen } := fun _ ↦
    ⟨fun _ ↦ rfl, fun _ _ ↦ rfl, rfl, rfl, fun _ _ ↦ rfl⟩
  simp only [doDraw]
  split
  · exact (hdrawn c.screen).setV rfl _
  · split
    · exact (hdrawn _).setV rfl _
    · exact ((hdrawn _).setV rfl _).next

theorem effect_doGetDelay (c : Computer) (x : Reg) :
    c.Effect (.getDelay x) (c.doGetDelay x).state := by
  have hsame : c.Effect (.getDelay x) c := .refl rfl rfl
  rw [doGetDelay]
  split
  · exact hsame
  · exact (hsame.setV rfl _).next

theorem effect_doAwaitKey (c : Computer) (x : Reg) :
    c.Effect (.awaitKey x) (c.doAwaitKey x) := by
  have hwait : ∀ waiting, c.Effect (.awaitKey x) { c with waiting := waiting } := fun _ ↦
    ⟨fun _ ↦ rfl, fun _ _ ↦ rfl, rfl, rfl, fun _ _ ↦ rfl⟩
  rw [doAwaitKey]
  split
  · exact hwait true
  · exact ((hwait false).setV rfl _).next

theorem effect_doLoadRegisters (c : Computer) (x : Reg) :
    c.Effect (.loadRegisters x) (c.doLoadRegisters x).state := by
  have hsame : c.Effect (.loadRegisters x) c := .refl rfl rfl
  have hlength := c.memory.length_readAll_le (blockAddresses c.registers.i (x + 1))
  rw [length_blockAddresses] at hlength
  rw [doLoadRegisters_eq_goOn]
  exact (hsame.loading hlength fun z hz ↦ hz).goOn _

theorem effect_doStoreDigits (c : Computer) (x : Reg) :
    c.Effect (.storeDigits x) (c.doStoreDigits x).state := by
  have hsame : c.Effect (.storeDigits x) c := .refl rfl rfl
  rw [doStoreDigits, afterStore_eq_goOn]
  exact (hsame.storing rfl).goOn _

theorem effect_doStoreRegisters (c : Computer) (x : Reg) :
    c.Effect (.storeRegisters x) (c.doStoreRegisters x).state := by
  have hsame : c.Effect (.storeRegisters x) c := .refl rfl rfl
  rw [doStoreRegisters_eq_goOn]
  refine (hsame.storing ?_).goOn _
  rw [map_fst_blockAt, length_firstRegisters]
  rfl

/-- **Every instruction has its effect and no other**, also one that is stopped. -/
theorem effect_perform (c : Computer) (opcode : Int) (i : Instruction) :
    c.Effect i (c.perform opcode i).state := by
  cases i with
  | ret => exact c.effect_doReturn
  | jump target => exact c.effect_doJump target
  | call target => exact c.effect_doCall target
  | skip condition =>
    have hskip : c.Effect (.skip condition) c := .refl rfl rfl
    rw [perform]
    split
    · exact hskip.next.next
    · exact hskip.next
  | setByte x k =>
    have hset : (Instruction.setByte x k).SetsV x := rfl
    exact (Effect.setV (.refl rfl rfl) hset _).next
  | addByte x k =>
    have hset : (Instruction.addByte x k).SetsV x := rfl
    exact (Effect.setV (.refl rfl rfl) hset _).next
  | arithmetic op x y => exact (c.effect_doArithmetic op x y).next
  | random x mask =>
    have hdrawn : c.Effect (.random x mask) { c with random := c.random.nextByte.2 } :=
      ⟨fun _ ↦ rfl, fun _ _ ↦ rfl, rfl, rfl, fun _ _ ↦ rfl⟩
    exact (hdrawn.setV rfl _).next
  | draw x y rows => exact c.effect_doDraw x y rows
  | getDelay x => exact c.effect_doGetDelay x
  | awaitKey x => exact c.effect_doAwaitKey x
  | setI target =>
    have hset : (Instruction.setI target).setsI = true := rfl
    exact (Effect.setI (.refl rfl rfl) hset _).next
  | addToI x =>
    have hset : (Instruction.addToI x).setsI = true := rfl
    exact (Effect.setI (.refl rfl rfl) hset _).next
  | fontSprite x =>
    have hset : (Instruction.fontSprite x).setsI = true := rfl
    exact (Effect.setI (.refl rfl rfl) hset _).next
  | storeDigits x => exact c.effect_doStoreDigits x
  | storeRegisters x => exact c.effect_doStoreRegisters x
  | loadRegisters x => exact c.effect_doLoadRegisters x
  | _ => exact ⟨fun _ ↦ rfl, fun _ _ ↦ rfl, rfl, rfl, fun _ _ ↦ rfl⟩

/-! ### By the word -/

/-- The word sets the byte register `z`. -/
def WordSetsV (w : Nat) (z : Reg) : Prop :=
  (z = regX w ∧ (w / 0x1000 ∈ [0x6, 0x7, 0x8, 0xC] ∨
    w / 0x1000 = 0xF ∧ (w % 0x100 = 0x07 ∨ w % 0x100 = 0x0A))) ∨
  (z = flagReg ∧ (w / 0x1000 = 0x8 ∧ w % 0x10 ∈ Arithmetic.flagDigits ∨ w / 0x1000 = 0xD)) ∨
  (z ≤ regX w ∧ w / 0x1000 = 0xF ∧ w % 0x100 = 0x65)

/-- **What a word may change, and how.** From `c` to `c'`, with the timer ticking `ticks` times. -/
structure WordFootprint (c : Computer) (w ticks : Nat) (c' : Computer) : Prop where
  memory : ∀ a, c'.memory.read a ≠ c.memory.read a →
    w / 0x1000 = 0xF ∧
      (w % 0x100 = 0x33 ∧ (a = c.registers.i ∨ a = (c.registers.i + 1) % 65536 ∨
        a = (c.registers.i + 2) % 65536) ∨
      w % 0x100 = 0x55 ∧ ∃ k ≤ (regX w).val, a = (c.registers.i + k) % 65536)
  screen : c'.screen ≠ c.screen →
    (w / 0x1000 = 0x0 ∧ w % 0x100 = 0xE0) ∨ w / 0x1000 = 0xD ∨ c.Switches
  hires : c'.hires ≠ c.hires → c.Switches
  stack : c'.registers.sp ≠ c.registers.sp ∨ c'.registers.stack ≠ c.registers.stack →
    w / 0x1000 = 0x2 ∨ (w / 0x1000 = 0x0 ∧ w % 0x100 = 0xEE)
  i : c'.registers.i ≠ c.registers.i →
    w / 0x1000 = 0xA ∨ (w / 0x1000 = 0xF ∧ (w % 0x100 = 0x1E ∨ w % 0x100 = 0x29))
  v : ∀ z, c'.v z ≠ c.v z → WordSetsV w z
  delay : c'.registers.delay = Registers.lowered
    (if w / 0x1000 = 0xF ∧ w % 0x100 = 0x15 then ((c.v (regX w)).toNat : Int)
      else c.registers.delay) ticks
  sound : c'.registers.sound = Registers.lowered
    (if w / 0x1000 = 0xF ∧ w % 0x100 = 0x18 then ((c.v (regX w)).toNat : Int)
      else c.registers.sound) ticks
  random : c'.random ≠ c.random → w / 0x1000 = 0xC
  waiting : c'.waiting ≠ c.waiting → w / 0x1000 = 0xF ∧ w % 0x100 = 0x0A
  keypad : c'.keypad = c.keypad
  setup : c.SameSetup c'

theorem word_of_setsI (hi : StandsFor w i) (h : i.setsI = true) :
    w / 0x1000 = 0xA ∨ (w / 0x1000 = 0xF ∧ (w % 0x100 = 0x1E ∨ w % 0x100 = 0x29)) := by
  cases hi with
  | setI hw => exact Or.inl hw
  | addToI hw hk => exact Or.inr ⟨hw, Or.inl hk⟩
  | fontSprite hw hk => exact Or.inr ⟨hw, Or.inr hk⟩
  | _ => cases h

theorem wordSetsV_of_setsV (hi : StandsFor w i) {z : Reg} (h : i.SetsV z) : WordSetsV w z := by
  cases hi with
  | setByte hw | addByte hw | random hw => exact Or.inl ⟨h, Or.inl (by simp [hw])⟩
  | getDelay hw hk | awaitKey hw hk => exact Or.inl ⟨h, Or.inr ⟨hw, by simp [hk]⟩⟩
  | draw hw => exact Or.inr (Or.inl ⟨h, Or.inr hw⟩)
  | loadRegisters hw hk => exact Or.inr (Or.inr ⟨h, hw, hk⟩)
  | @arithmetic op hw hop =>
    rcases h with hx | ⟨hflag, hz⟩
    · exact Or.inl ⟨hx, Or.inl (by simp [hw])⟩
    · have hdigit := Arithmetic.mem_flagDigits_of_setsFlag hop hflag
      exact Or.inr (Or.inl ⟨hz, Or.inl ⟨hw, hdigit⟩⟩)
  | _ => exact False.elim h

theorem delayBehind_eq (hi : StandsFor w i) :
    c.delayBehind i =
      if w / 0x1000 = 0xF ∧ w % 0x100 = 0x15 then ((c.v (regX w)).toNat : Int)
      else c.registers.delay := by
  cases hi with
  | setDelay hw hk => simp [delayBehind, hw, hk]
  | _ => simp [delayBehind, *]

theorem soundBehind_eq (hi : StandsFor w i) :
    c.soundBehind i =
      if w / 0x1000 = 0xF ∧ w % 0x100 = 0x18 then ((c.v (regX w)).toNat : Int)
      else c.registers.sound := by
  cases hi with
  | setSound hw hk => simp [soundBehind, hw, hk]
  | _ => simp [soundBehind, *]

theorem of_mem_storedAddresses (hi : StandsFor w i) {a : Int} (h : a ∈ c.storedAddresses i) :
    w / 0x1000 = 0xF ∧
      (w % 0x100 = 0x33 ∧ (a = c.registers.i ∨ a = (c.registers.i + 1) % 65536 ∨
        a = (c.registers.i + 2) % 65536) ∨
      w % 0x100 = 0x55 ∧ ∃ k ≤ (regX w).val, a = (c.registers.i + k) % 65536) := by
  cases hi with
  | storeDigits hw hk =>
    refine ⟨hw, Or.inl ⟨hk, ?_⟩⟩
    simpa only [storedAddresses, List.mem_cons, List.not_mem_nil, or_false] using h
  | storeRegisters hw hk =>
    obtain ⟨k, hlt, ha⟩ := mem_blockAddresses.1 h
    exact ⟨hw, Or.inr ⟨hk, k, Nat.le_of_lt_succ hlt, ha⟩⟩
  | _ => exact absurd h List.not_mem_nil

/-- A jump that does not switch is a jump and nothing else. -/
theorem doJump_of_not_switches (hfetch : c.fetch = .ok w) (hw : w / 0x1000 = 0x1)
    (h : ¬ c.Switches) :
    (c.remembering w).doJump (targetOf w) = .done ((c.remembering w).jump (targetOf w)) :=
  if_neg ((switches_iff hfetch hw).not.1 h)

theorem hires_performed (hfetch : c.fetch = .ok w) (hi : StandsFor w i)
    (h : (c.performed w i).state.hires ≠ c.hires) : c.Switches := by
  by_contra hother
  refine h ?_
  by_cases hjump : ∃ target, i = .jump target
  · obtain ⟨target, rfl⟩ := hjump
    cases hi with
    | jump hw =>
      rw [performed, perform, doJump_of_not_switches hfetch hw hother]
      rfl
  · exact (c.remembering w).hires_perform w fun target heq ↦ hjump ⟨target, heq⟩

theorem screen_performed (hfetch : c.fetch = .ok w) (hi : StandsFor w i)
    (h : (c.performed w i).state.screen ≠ c.screen) :
    (w / 0x1000 = 0x0 ∧ w % 0x100 = 0xE0) ∨ w / 0x1000 = 0xD ∨ c.Switches := by
  by_contra hother
  obtain ⟨hclear, hdraw, hswitch⟩ :
      ¬ (w / 0x1000 = 0x0 ∧ w % 0x100 = 0xE0) ∧ w / 0x1000 ≠ 0xD ∧ ¬ c.Switches := by
    tauto
  refine h ?_
  by_cases hjump : ∃ target, i = .jump target
  · obtain ⟨target, rfl⟩ := hjump
    cases hi with
    | jump hw =>
      rw [performed, perform, doJump_of_not_switches hfetch hw hswitch]
      rfl
  refine (c.remembering w).screen_perform w ?_ (fun target heq ↦ hjump ⟨target, heq⟩) ?_
  · rintro rfl
    cases hi with
    | clearScreen hw hk => exact hclear ⟨hw, hk⟩
  · rintro x y rows rfl
    cases hi with
    | draw hw => exact hdraw hw

theorem stack_performed (hi : StandsFor w i)
    (h : (c.performed w i).state.registers.sp ≠ c.registers.sp ∨
      (c.performed w i).state.registers.stack ≠ c.registers.stack) :
    w / 0x1000 = 0x2 ∨ (w / 0x1000 = 0x0 ∧ w % 0x100 = 0xEE) := by
  rcases i.ret_or_call with rfl | ⟨target, rfl⟩ | ⟨hret, hcall⟩
  · cases hi with
    | ret hw hk => exact Or.inr ⟨hw, hk⟩
  · cases hi with
    | call hw => exact Or.inl hw
  · obtain ⟨hsp, hstack⟩ := (c.remembering w).stack_perform w hret hcall
    exact (h.elim (· hsp) (· hstack)).elim

theorem random_performed (hi : StandsFor w i)
    (h : (c.performed w i).state.random ≠ c.random) : w / 0x1000 = 0xC := by
  by_contra hother
  refine h ((c.remembering w).random_perform w ?_)
  rintro x mask rfl
  cases hi with
  | random hw => exact hother hw

theorem waiting_performed (hi : StandsFor w i)
    (h : (c.performed w i).state.waiting ≠ c.waiting) :
    w / 0x1000 = 0xF ∧ w % 0x100 = 0x0A := by
  by_contra hother
  refine h ((c.remembering w).waiting_perform w ?_)
  rintro x rfl
  cases hi with
  | awaitKey hw hk => exact hother ⟨hw, hk⟩

/-- **A word that was carried out** has left its footprint, before the timer has seen the clock. -/
theorem footprint_performed (hfetch : c.fetch = .ok w) (hi : StandsFor w i) :
    c.WordFootprint w 0 (c.performed w i).state := by
  have heffect : (c.remembering w).Effect i (c.performed w i).state := effect_perform _ w i
  have hleaves := perform_leavesAlone (c.remembering w) w i
  have hremembering : c.SameSetup (c.remembering w) := ⟨rfl, rfl, rfl, rfl, rfl⟩
  refine
    { memory := fun a hne ↦ ?_
      screen := screen_performed hfetch hi
      hires := hires_performed hfetch hi
      stack := stack_performed hi
      i := fun hne ↦ ?_
      v := fun z hne ↦ ?_
      delay := ?_
      sound := ?_
      random := random_performed hi
      waiting := waiting_performed hi
      keypad := hleaves.keypad_eq
      setup := hremembering.trans hleaves.sameSetup }
  · by_contra hother
    exact hne (heffect.read_eq a fun hmem ↦
      hother (of_mem_storedAddresses (c := c.remembering w) hi hmem))
  · by_contra hother
    refine hne (heffect.i_eq (Bool.eq_false_iff.2 fun h ↦ hother (word_of_setsI hi h)))
  · by_contra hother
    exact hne (heffect.v_eq z fun h ↦ hother (wordSetsV_of_setsV hi h))
  · rw [Registers.lowered_zero]
    exact heffect.delay_eq.trans (delayBehind_eq hi)
  · rw [Registers.lowered_zero]
    exact heffect.sound_eq.trans (soundBehind_eq hi)

/-- A word that is no instruction leaves none. -/
theorem footprint_remembering (hw : w < 0x10000) (hdecode : decode w = none) :
    c.WordFootprint w 0 (c.remembering w) := by
  have hunknown : w / 0x1000 = 0xF → w % 0x100 ≠ 0x15 ∧ w % 0x100 ≠ 0x18 := by
    intro hfamily
    rcases (decode_eq_none_iff hw).1 hdecode with ⟨hfamily', -⟩ | ⟨hfamily', -⟩ | ⟨-, hlow⟩
    · omega
    · omega
    · simp only [List.mem_cons, List.not_mem_nil, or_false, not_or] at hlow
      exact ⟨hlow.2.2.1, hlow.2.2.2.1⟩
  refine
    { memory := fun a hne ↦ absurd rfl hne
      screen := fun hne ↦ absurd rfl hne
      hires := fun hne ↦ absurd rfl hne
      stack := fun hne ↦ (hne.elim (· rfl) (· rfl)).elim
      i := fun hne ↦ absurd rfl hne
      v := fun z hne ↦ absurd rfl hne
      delay := ?_
      sound := ?_
      random := fun hne ↦ absurd rfl hne
      waiting := fun hne ↦ absurd rfl hne
      keypad := rfl
      setup := ⟨rfl, rfl, rfl, rfl, rfl⟩ }
  · rw [Registers.lowered_zero, if_neg fun h ↦ (hunknown h.1).1 h.2]
    rfl
  · rw [Registers.lowered_zero, if_neg fun h ↦ (hunknown h.1).2 h.2]
    rfl

/-! ### Steps -/

/-- The timer adds its ticks, **and nothing else to the footprint**. -/
theorem WordFootprint.timed (h : c.WordFootprint w 0 c') :
    ∃ ticks ≤ 1, c.WordFootprint w ticks c'.timed := by
  have hsetup : c.SameSetup c'.timed := h.setup.trans c'.sameSetup_timed
  obtain ⟨registers, timer, clock, hregisters, heq⟩ := c'.exists_timed_eq
  rw [heq] at hsetup ⊢
  rcases hregisters with rfl | rfl
  · exact ⟨0, Nat.zero_le 1, { h with setup := hsetup }⟩
  · refine ⟨1, Nat.le_refl 1, { h with delay := ?_, sound := ?_, setup := hsetup }⟩
    · show (if 0 < c'.registers.delay then c'.registers.delay - 1 else c'.registers.delay) = _
      rw [h.delay, Registers.lowered_succ]
    · show (if 0 < c'.registers.sound then c'.registers.sound - 1 else c'.registers.sound) = _
      rw [h.sound, Registers.lowered_succ]

theorem WordFootprint.recordFault {ticks : Nat} (h : c.WordFootprint w ticks c')
    (cause : Fault.Cause) (opcode : Option Int) :
    c.WordFootprint w ticks (c'.recordFault cause opcode).state :=
  { h with setup := h.setup.trans ⟨rfl, rfl, rfl, rfl, rfl⟩ }

/-- **A step leaves the footprint of its word**, however it ends. -/
theorem footprint_step (hfetch : c.fetch = .ok w) :
    ∃ ticks ≤ 1, c.WordFootprint w ticks c.step.state := by
  have hw := (fetch_eq_ok hfetch).2.2
  rcases hdecode : decode w with - | i
  · rw [step_of_unknown hfetch hdecode]
    exact ⟨0, Nat.zero_le 1, (footprint_remembering hw hdecode).recordFault _ _⟩
  have hperformed : c.WordFootprint w 0 (c.performed w i).state :=
    footprint_performed hfetch (standsFor_of_decode hw hdecode)
  rw [step_of_decode hfetch hdecode, settle]
  rcases hhalt : (c.performed w i).halt with - | f | e
  · simp only [Outcome.andThen_of_none hhalt, state_finishStep]
    exact hperformed.timed
  · exact ⟨0, Nat.zero_le 1, hperformed.recordFault _ _⟩
  · exact ⟨0, Nat.zero_le 1, hperformed⟩

/-- **What a step changes, and what it asks of the keypad.** For every computer and the word at its
program counter, whatever that is and however the step ends,

* the step leaves the footprint of the word, with one tick of the timer or none;
* if `I` is a number of sixteen bits, or the memory has no address that is not, then every byte
  that the step has changed is one of three, or one of as many as there are registers to store,
  counted up from `I` and wrapped to sixteen bits;
* unless the word asks for keys, the step is the same with every other keypad, and a key that goes
  down or up **commutes with it**: the step sends the same signals and ends in the same way behind
  the key, the key is refused behind the step if it is before it, and the two lead to the same
  computer in either order. -/
theorem step_leaves_footprint (hfetch : c.fetch = .ok w) :
    (∃ ticks ≤ 1, c.WordFootprint w ticks c.step.state) ∧
      (c.registers.i < 65536 ∨ c.memory.capacity ≤ 65536 → ∀ a,
        c.step.state.memory.read a ≠ c.memory.read a →
          ∃ k : Nat, a = (c.registers.i + k) % 65536 ∧ w / 0x1000 = 0xF ∧
            (w % 0x100 = 0x33 ∧ k ≤ 2 ∨ w % 0x100 = 0x55 ∧ k ≤ w / 0x100 % 0x10)) ∧
      (¬ WordAsksKeypad w →
        (∀ pad, (c.setKeypad pad).step = c.step.onState (setKeypad pad)) ∧
        ∀ request : Request, request.movesKey = true →
          (c.serve request).state.step = c.step.onState (fun c ↦ (c.serve request).state) ∧
            (c.step.state.serve request).halt = (c.serve request).halt ∧
            (c.step.state.serve request).signals = (c.serve request).signals) := by
  obtain ⟨ticks, hticks, hfootprint⟩ := footprint_step hfetch
  refine ⟨⟨ticks, hticks, hfootprint⟩, fun hrange a hne ↦ ?_, fun hasks ↦ ?_⟩
  · obtain ⟨hfamily, hstored⟩ := hfootprint.memory a hne
    -- A changed byte is within the memory, so `I` has sixteen bits if the byte is at `I` itself.
    obtain ⟨h0, hlt⟩ := Memory.inBounds_of_read_ne hfootprint.setup.capacity_eq hne
    rcases hstored with ⟨hlow, rfl | rfl | rfl⟩ | ⟨hlow, k, hk, rfl⟩
    · exact ⟨0, by omega, hfamily, Or.inl ⟨hlow, by omega⟩⟩
    · exact ⟨1, rfl, hfamily, Or.inl ⟨hlow, by omega⟩⟩
    · exact ⟨2, rfl, hfamily, Or.inl ⟨hlow, by omega⟩⟩
    · exact ⟨k, rfl, hfamily, Or.inr ⟨hlow, hk⟩⟩
  · have hword : ∀ w', c.fetch = .ok w' → ¬ WordAsksKeypad w' := by
      intro w' hfetch'
      cases hfetch.symm.trans hfetch'
      exact hasks
    exact ⟨fun pad ↦ step_setKeypad pad hword, fun request hkey ↦ step_serve_key hkey hword⟩

/-- A computer about to store its first two registers. -/
def saving : Computer :=
  (plain (.initial 0) ((Memory.blank 80).load 0 [0xF1, 0x55]).1).setI 0x20

/-- **It can change two bytes**, and a key can go down before it has done so or afterwards. -/
theorem step_leaves_footprint_saving :
    (∀ a, saving.step.state.memory.read a ≠ saving.memory.read a → a = 0x20 ∨ a = 0x21) ∧
      (saving.serve (.press 3)).state.step =
        saving.step.onState fun c ↦ (c.serve (.press 3)).state := by
  have hfetch : saving.fetch = .ok 0xF155 := by decide +kernel
  have hi : saving.registers.i = 0x20 := rfl
  obtain ⟨-, hmemory, hkeys⟩ := step_leaves_footprint hfetch
  constructor
  · intro a hne
    obtain ⟨k, rfl, -, hk⟩ := hmemory (Or.inl (by omega)) a hne
    omega
  · have hasks : ¬ WordAsksKeypad 0xF155 := by
      rw [WordAsksKeypad]
      omega
    exact ((hkeys hasks).2 (.press 3) rfl).1

end Computer

end ChipEight
