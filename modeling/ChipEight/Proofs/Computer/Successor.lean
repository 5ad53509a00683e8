import ChipEight.Proofs.Computer.KeyWait
import ChipEight.Proofs.Computer.Subroutine
import Mathlib.Data.Fintype.Basic

/-!
# Where the program goes on

The program counter is moved by every instruction itself, and most of them move it by two bytes.
`goesTo` says of each instruction where it goes, and `successor` says the same **by the digits of
the word and without the decoder**: a return goes behind the slot that the stack pointer stands on,
the jumps and the calls to the address in the word, a skip whose condition holds by four bytes, a
key wait with every key up nowhere, and everything else on to the next word.

A completed step ends at the successor of its word (`pc_step_eq_successor`), because the timer does
not touch the program counter. Only the sign of the stack pointer is assumed; that there is a slot,
a target that fits or an address within the memory is shown by the step that got to its end.
-/

namespace ChipEight

namespace Keypad

/-- The key of a code is down. **A code of sixteen or more has no key**, and so it is up. -/
def HasDown (pad : Keypad) (code : Nat) : Prop :=
  ∃ k : Fin 16, k.val = code ∧ pad.down.get k = true

instance (pad : Keypad) (code : Nat) : Decidable (pad.HasDown code) :=
  inferInstanceAs (Decidable (∃ _, _))

theorem holds_eq_true_iff {pad : Keypad} {code : UInt8} :
    pad.holds code = true ↔ pad.HasDown code.toNat := by
  rw [holds]
  split
  · next hlt =>
    refine ⟨fun h ↦ ⟨⟨_, hlt⟩, rfl, h⟩, ?_⟩
    rintro ⟨k, hk, hdown⟩
    rwa [show (⟨_, hlt⟩ : Fin 16) = k from Fin.ext hk.symm]
  · next hge =>
    refine iff_of_false Bool.false_ne_true ?_
    rintro ⟨k, hk, -⟩
    exact hge (hk ▸ k.isLt)

end Keypad

namespace Computer

open Instruction

variable {c : Computer} {w : Nat} {i : Instruction}

/-! ### By the instruction -/

/-- The address in the slot that the stack pointer stands on. -/
def returnAddress (c : Computer) : Nat :=
  (c.registers.stack.toList.getD c.registers.sp.toNat 0).toNat

theorem returnAddress_eq {slot : Fin 17} (h : c.registers.sp = slot.val) :
    c.returnAddress = (c.registers.stack.get slot).toNat := by
  rw [returnAddress, h, Int.toNat_natCast, List.getD_eq_getElem?_getD,
    List.getElem?_eq_getElem (by rw [Vector.length_toList]; exact slot.isLt), Option.getD_some,
    Vector.getElem_toList]
  rfl

/-- Where the program goes on behind an instruction. -/
def goesTo (c : Computer) : Instruction → Int
  | .ret => (c.returnAddress + 2) % 65536
  | .jump target =>
    if c.config.hiresSwitch = true ∧ c.registers.pc = 0x200 ∧ target.val = 0x260 then 0x2C0
    else target
  | .call target => target
  | .jumpPlusV0 target => target + (c.v firstReg).toNat
  | .skip condition =>
    if c.meets condition then (c.registers.pc + 4) % 65536 else (c.registers.pc + 2) % 65536
  | .awaitKey _ =>
    match c.keypad.lowest with
    | none => c.registers.pc
    | some _ => (c.registers.pc + 2) % 65536
  | _ => (c.registers.pc + 2) % 65536

theorem pc_goOn {cause : Option Fault.Cause} (hdone : (c.goOn cause).halt = none) :
    (c.goOn cause).state.registers.pc = (c.registers.pc + 2) % 65536 := by
  rw [(goOn_eq_done hdone).2]
  rfl

theorem pc_doDraw {x y : Reg} {rows : Fin 16} (hdone : (c.doDraw x y rows).halt = none) :
    (c.doDraw x y rows).state.registers.pc = (c.registers.pc + 2) % 65536 := by
  revert hdone
  simp only [doDraw]
  split
  · intro hdone
    cases hdone
  · split
    · intro hdone
      cases hdone
    · exact fun _ ↦ rfl

/-- **An instruction that gets to its end goes where it says.** -/
theorem pc_perform (h0 : 0 ≤ c.registers.sp) {opcode : Int}
    (hdone : (c.perform opcode i).halt = none) :
    (c.perform opcode i).state.registers.pc = c.goesTo i := by
  cases i with
  | ret =>
    obtain ⟨slot, hslot, heq⟩ := exists_doReturn_eq_done h0 hdone
    rw [perform, heq, goesTo, returnAddress_eq hslot]
    rfl
  | call target =>
    obtain ⟨-, -, slot, -, heq⟩ := exists_doCall_eq_done h0 hdone
    rw [perform, heq]
    rfl
  | jump target =>
    rw [perform, doJump, goesTo]
    split <;> rfl
  | skip condition =>
    rw [perform, goesTo]
    split
    · show ((c.registers.pc + 2) % 65536 + 2) % 65536 = (c.registers.pc + 4) % 65536
      omega
    · rfl
  | arithmetic a x y =>
    rw [perform, doArithmetic]
    rcases a.flag? (c.v x) (c.v y) with - | flag <;> rfl
  | draw x y rows => exact pc_doDraw hdone
  | getDelay x =>
    revert hdone
    rw [perform, doGetDelay]
    rcases Registers.byte? c.registers.delay with - | byte
    · intro hdone
      cases hdone
    · exact fun _ ↦ rfl
  | awaitKey x =>
    simp only [perform, doAwaitKey, goesTo]
    rcases c.keypad.lowest with - | key
    · rfl
    · rfl
  | storeDigits x =>
    rw [perform, doStoreDigits, afterStore_eq_goOn] at hdone ⊢
    exact pc_goOn hdone
  | storeRegisters x =>
    rw [perform, doStoreRegisters_eq_goOn] at hdone ⊢
    exact pc_goOn hdone
  | loadRegisters x =>
    rw [perform, doLoadRegisters_eq_goOn] at hdone ⊢
    exact (pc_goOn hdone).trans (by rw [Registers.pc_setFirst]; rfl)
  | _ => rfl

/-! ### By the word -/

/-- The word is a skip and its condition holds. -/
def SkipsBy (c : Computer) (w : Nat) : Prop :=
  let a := (c.v (regX w)).toNat
  let b := (c.v (regY w)).toNat
  (w / 0x1000 = 0x3 ∧ a = w % 0x100) ∨
  (w / 0x1000 = 0x4 ∧ a ≠ w % 0x100) ∨
  (w / 0x1000 = 0x5 ∧ a = b) ∨
  (w / 0x1000 = 0x9 ∧ a ≠ b) ∨
  (w / 0x1000 = 0xE ∧ w % 0x100 = 0x9E ∧ c.keypad.HasDown a) ∨
  (w / 0x1000 = 0xE ∧ w % 0x100 = 0xA1 ∧ ¬ c.keypad.HasDown a)

instance (c : Computer) (w : Nat) : Decidable (c.SkipsBy w) :=
  inferInstanceAs (Decidable (_ ∨ _ ∨ _ ∨ _ ∨ _ ∨ _))

/-- Where the program goes on behind a word. -/
def successor (c : Computer) (w : Nat) : Int :=
  if w / 0x1000 = 0x0 ∧ w % 0x100 = 0xEE then (c.returnAddress + 2) % 65536
  else if w / 0x1000 = 0x1 then
    if c.config.hiresSwitch = true ∧ c.registers.pc = 0x200 ∧ w % 0x1000 = 0x260 then 0x2C0
    else (w % 0x1000 : Nat)
  else if w / 0x1000 = 0x2 then (w % 0x1000 : Nat)
  else if w / 0x1000 = 0xB then (w % 0x1000 : Nat) + (c.v firstReg).toNat
  else if w / 0x1000 = 0xF ∧ w % 0x100 = 0x0A ∧ ∀ k, c.keypad.down.get k = false then
    c.registers.pc
  else if c.SkipsBy w then (c.registers.pc + 4) % 65536
  else (c.registers.pc + 2) % 65536

theorem eq_ofNat_iff {a : UInt8} : a = UInt8.ofNat w ↔ a.toNat = w % 0x100 := by
  rw [← UInt8.toNat_inj, UInt8.toNat_ofNat']

theorem meets_iff_skipsBy {condition : Condition} (hi : StandsFor w (.skip condition)) :
    c.meets condition = true ↔ c.SkipsBy w := by
  cases hi with
  | skipByte hw | skipNotByte hw => simp [SkipsBy, hw, meets, eq_ofNat_iff]
  | skipEqual hw | skipDiffer hw => simp [SkipsBy, hw, meets, UInt8.toNat_inj]
  | skipKeyDown hw hk | skipKeyUp hw hk =>
    simp [SkipsBy, hw, hk, meets, ← Keypad.holds_eq_true_iff]

theorem not_skipsBy (hi : StandsFor w i) (h : ∀ condition, i ≠ .skip condition) :
    ¬ c.SkipsBy w := by
  cases hi with
  | skipByte | skipNotByte | skipEqual | skipDiffer | skipKeyDown | skipKeyUp =>
    exact absurd rfl (h _)
  | _ => simp [SkipsBy, *]

/-- **The decoder has no part in it.** -/
theorem goesTo_eq_successor (hi : StandsFor w i) : c.goesTo i = c.successor w := by
  have hmeets : ∀ condition, i = .skip condition → (c.meets condition = true ↔ c.SkipsBy w) := by
    rintro condition rfl
    exact meets_iff_skipsBy hi
  have hskip : (∀ condition, i ≠ .skip condition) → ¬ c.SkipsBy w := not_skipsBy hi
  cases hi with
  | skipByte hw | skipNotByte hw | skipEqual hw | skipDiffer hw =>
    simp [goesTo, successor, hw, hmeets _ rfl]
  | skipKeyDown hw hk | skipKeyUp hw hk => simp [goesTo, successor, hw, hk, hmeets _ rfl]
  | awaitKey hw hk =>
    rcases hlowest : c.keypad.lowest with - | key
    · simp [goesTo, successor, hw, hk, hlowest, Keypad.lowest_eq_none_iff.1 hlowest]
    · have hdown : ¬ ∀ k, c.keypad.down.get k = false := by
        rw [← Keypad.lowest_eq_none_iff, hlowest]
        exact Option.some_ne_none key
      simp [goesTo, successor, hw, hk, hlowest, hdown, hskip]
  | jump hw =>
    rw [successor, if_neg (by omega), if_pos hw, goesTo]
    rfl
  | setI hw =>
    have hother : ¬ c.SkipsBy w := hskip fun _ ↦ Instruction.noConfusion
    simp [goesTo, successor, hw, hother]
  | _ => simp [goesTo, successor, targetOf, *]

/-! ### Steps -/

/-- **A completed step ends at the successor of its word.** -/
theorem pc_step_eq_successor (h0 : 0 ≤ c.registers.sp) (hfetch : c.fetch = .ok w)
    (hdone : c.step.halt = none) : c.step.state.registers.pc = c.successor w := by
  obtain ⟨w', i, hfetch', hdecode, hperformed, heq⟩ := exists_step_eq_timed hdone
  cases hfetch.symm.trans hfetch'
  have hi : StandsFor w i := standsFor_of_decode (fetch_eq_ok hfetch).2.2 hdecode
  rw [heq, (c.performed w i).state.stack_timed.1, ← goesTo_eq_successor hi]
  exact pc_perform (c := c.remembering w) h0 hperformed

/-- A computer that stands at a skip which asks for a key, with a code in the register that no key
has. -/
def asking : Computer :=
  (plain (.initial 0) ((Memory.blank 80).load 0 [0xE0, 0xA1]).1).setV firstReg 0x1F

/-- **Such a key is up**, so the skip is taken. -/
theorem pc_step_asking : asking.step.halt = none ∧ asking.step.state.registers.pc = 4 := by
  have hfetch : asking.fetch = .ok 0xE0A1 := by decide +kernel
  have hdone : asking.step.halt = none := by decide +kernel
  refine ⟨hdone, (pc_step_eq_successor (by decide) hfetch hdone).trans ?_⟩
  decide +kernel

end Computer

end ChipEight
