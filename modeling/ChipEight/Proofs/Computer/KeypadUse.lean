import ChipEight.Proofs.Computer.Background
import ChipEight.Proofs.Computer.History

/-!
# What hangs on the keypad

Three instructions look at the keypad: the two skips that ask for a key and the key wait
(`Instruction.asksKeypad`). Every other one does the same with other keys down, and **a step never
moves a key** itself. So a step whose word is none of the three commutes with the keys: whether one
goes down or up before it or behind it, the step sends the same signals, ends in the same way and
leaves the same computer (`step_serve_key`).

The word does not have to be an instruction, and the step does not have to get to its end.
-/

namespace ChipEight

namespace Instruction

/-- The instructions that look at the keypad. -/
def asksKeypad : Instruction → Bool
  | skip (.keyDown _) => true
  | skip (.keyUp _) => true
  | awaitKey _ => true
  | _ => false

/-- The words of such instructions. -/
def WordAsksKeypad (w : Nat) : Prop :=
  (w / 0x1000 = 0xE ∧ (w % 0x100 = 0x9E ∨ w % 0x100 = 0xA1)) ∨
  (w / 0x1000 = 0xF ∧ w % 0x100 = 0x0A)

theorem wordAsksKeypad_of_asksKeypad {w : Nat} {i : Instruction} (hi : StandsFor w i)
    (h : i.asksKeypad = true) : WordAsksKeypad w := by
  cases hi with
  | skipKeyDown hw hk => exact Or.inl ⟨hw, Or.inl hk⟩
  | skipKeyUp hw hk => exact Or.inl ⟨hw, Or.inr hk⟩
  | awaitKey hw hk => exact Or.inr ⟨hw, hk⟩
  | _ => cases h

end Instruction

namespace Computer

open Instruction

variable {c : Computer} {w : Nat} {i : Instruction} {pad : Keypad}

/-- The computer with another state of its keypad. -/
def setKeypad (pad : Keypad) (c : Computer) : Computer := { c with keypad := pad }

/-! ### Instructions -/

theorem registers_setKeypad (pad : Keypad) (c : Computer) :
    (c.setKeypad pad).registers = c.registers := by
  rw [setKeypad]

theorem config_setKeypad (pad : Keypad) (c : Computer) :
    (c.setKeypad pad).config = c.config := by
  rw [setKeypad]

theorem doReturn_setKeypad (pad : Keypad) (c : Computer) :
    (c.setKeypad pad).doReturn = c.doReturn.onState (setKeypad pad) := by
  simp only [doReturn, registers_setKeypad]
  split
  · rfl
  · rcases signedIndex? 17 c.registers.sp with - | slot
    · rfl
    · rfl

theorem doCall_setKeypad (pad : Keypad) (c : Computer) (target : Target) :
    (c.setKeypad pad).doCall target = (c.doCall target).onState (setKeypad pad) := by
  simp only [doCall, registers_setKeypad]
  split
  · rfl
  · split
    · rfl
    · rfl

theorem doDraw_setKeypad (pad : Keypad) (c : Computer) (x y : Reg) (rows : Fin 16) :
    (c.setKeypad pad).doDraw x y rows = (c.doDraw x y rows).onState (setKeypad pad) := by
  simp only [doDraw, setKeypad, v]
  split
  · rfl
  · split
    · rfl
    · rfl

theorem goOn_setKeypad (pad : Keypad) (c : Computer) (cause : Option Fault.Cause) :
    (c.setKeypad pad).goOn cause = (c.goOn cause).onState (setKeypad pad) := by
  rcases cause with - | cause
  · rfl
  · rfl

/-- **With other keys down an instruction that does not ask for them does the same.** -/
theorem perform_setKeypad (pad : Keypad) (c : Computer) (opcode : Int)
    (h : i.asksKeypad = false) :
    (c.setKeypad pad).perform opcode i = (c.perform opcode i).onState (setKeypad pad) := by
  cases i with
  | awaitKey => cases h
  | ret => exact c.doReturn_setKeypad pad
  | call target => exact c.doCall_setKeypad pad target
  | draw x y rows => exact c.doDraw_setKeypad pad x y rows
  | jump target =>
    simp only [perform, doJump, registers_setKeypad, config_setKeypad]
    split
    · rfl
    · rfl
  | skip condition =>
    have hmeets : (c.setKeypad pad).meets condition = c.meets condition := by
      cases condition with
      | keyDown | keyUp => cases h
      | _ => rfl
    simp only [perform, hmeets]
    split
    · rfl
    · rfl
  | arithmetic a x y =>
    simp only [perform, doArithmetic, setKeypad, v]
    rcases a.flag? (c.registers.v.get x) (c.registers.v.get y) with - | flag
    · rfl
    · rfl
  | getDelay x =>
    simp only [perform, doGetDelay, setKeypad]
    rcases Registers.byte? c.registers.delay with - | byte
    · rfl
    · rfl
  | storeDigits x =>
    rw [perform, perform, doStoreDigits, doStoreDigits, afterStore_eq_goOn, afterStore_eq_goOn]
    exact goOn_setKeypad pad { c with memory := _ } _
  | storeRegisters x =>
    rw [perform, perform, doStoreRegisters_eq_goOn, doStoreRegisters_eq_goOn]
    exact goOn_setKeypad pad { c with memory := _ } _
  | loadRegisters x =>
    rw [perform, perform, doLoadRegisters_eq_goOn, doLoadRegisters_eq_goOn]
    exact goOn_setKeypad pad { c with registers := _ } _
  | _ => rfl

/-! ### Steps -/

/-- **The end of a step does not look at the keypad**, whatever it is. -/
theorem settle_setKeypad (pad : Keypad) (w : Nat) (o : Outcome Halt Computer) :
    settle w (o.onState (setKeypad pad)) = (settle w o).onState (setKeypad pad) :=
  settle_onState (fun c ↦ finishStep_onState (registers_setKeypad pad c) rfl rfl w)
    (fun _ _ _ ↦ rfl) o

/-- **With other keys down a step that does not ask for them is the same step.** -/
theorem step_setKeypad (pad : Keypad) (h : ∀ w, c.fetch = .ok w → ¬ WordAsksKeypad w) :
    (c.setKeypad pad).step = c.step.onState (setKeypad pad) := by
  have hfetch' : (c.setKeypad pad).fetch = c.fetch := rfl
  rcases hfetch : c.fetch with cause | w
  · rw [step_of_fetch_error hfetch, step_of_fetch_error (hfetch'.trans hfetch)]
    rfl
  rcases hdecode : decode w with - | i
  · rw [step_of_unknown hfetch hdecode, step_of_unknown (hfetch'.trans hfetch) hdecode]
    rfl
  have hi : StandsFor w i := standsFor_of_decode (fetch_eq_ok hfetch).2.2 hdecode
  have hasks : i.asksKeypad = false :=
    Bool.eq_false_iff.2 fun h' ↦ h w hfetch (wordAsksKeypad_of_asksKeypad hi h')
  rw [step_of_decode hfetch hdecode, step_of_decode (hfetch'.trans hfetch) hdecode,
    ← settle_setKeypad]
  exact congrArg (settle w) (perform_setKeypad pad (c.remembering w) w hasks)

/-- **A step moves no key**, however it ends. -/
theorem keypad_step (c : Computer) : c.step.state.keypad = c.keypad := by
  refine step_preserves (P := fun c' ↦ c'.keypad = c.keypad) ?_ ?_ ?_ rfl
  · intro c' opcode fault h
    exact h
  · intro c' opcode i h
    exact (c'.perform_leavesAlone opcode i).keypad_eq.trans h
  · intro c' h
    obtain ⟨registers, timer, clock, -, heq⟩ := c'.exists_timed_eq
    rw [heq]
    exact h

/-! ### Keys before and behind a step -/

/-- The request is for a key to go down or up. -/
def Request.movesKey : Request → Bool
  | press _ => true
  | release _ => true
  | _ => false

/-- What a key does is settled by the keypad, **and is a change of the keypad or nothing**. -/
theorem serve_key_cases (c : Computer) {request : Request} (h : request.movesKey = true) :
    (∃ pad, ∀ c' : Computer, c'.keypad = c.keypad → c'.serve request = .done (c'.setKeypad pad)) ∨
      ∃ e, ∀ c' : Computer, c'.keypad = c.keypad → c'.serve request = .refused c' e := by
  have hmoved : ∃ moved, ∀ c' : Computer, c'.keypad = c.keypad →
      c'.serve request = c'.withKeypad moved := by
    cases request with
    | press code => exact ⟨c.keypad.press code, fun c' hpad ↦ by rw [serve, hpad]⟩
    | release code => exact ⟨c.keypad.release code, fun c' hpad ↦ by rw [serve, hpad]⟩
    | _ => cases h
  obtain ⟨moved, hserve⟩ := hmoved
  rcases moved with e | pad
  · exact Or.inr ⟨e, hserve⟩
  · exact Or.inl ⟨pad, hserve⟩

/-- **A step that does not ask for keys commutes with them.** Behind a key that goes down or up it
sends the same signals and ends in the same way; behind the step the key is refused if it was
refused before it; and both ways lead to the same computer. -/
theorem step_serve_key {request : Request} (hkey : request.movesKey = true)
    (h : ∀ w, c.fetch = .ok w → ¬ WordAsksKeypad w) :
    (c.serve request).state.step = c.step.onState (fun c ↦ (c.serve request).state) ∧
      (c.step.state.serve request).halt = (c.serve request).halt ∧
      (c.step.state.serve request).signals = (c.serve request).signals := by
  have hkeypad := c.keypad_step
  rcases c.serve_key_cases hkey with ⟨pad, hserve⟩ | ⟨e, hserve⟩
  · have hbefore := hserve c rfl
    have hbehind := hserve c.step.state hkeypad
    rw [hbefore, hbehind]
    refine ⟨(step_setKeypad pad h).trans ?_, rfl, rfl⟩
    rw [Outcome.onState, Outcome.onState, hbehind]
    rfl
  · have hbefore := hserve c rfl
    have hbehind := hserve c.step.state hkeypad
    rw [hbefore, hbehind]
    refine ⟨?_, rfl, rfl⟩
    rw [Outcome.onState, hbehind]
    rfl

end Computer

end ChipEight
