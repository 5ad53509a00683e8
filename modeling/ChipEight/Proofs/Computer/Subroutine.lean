import ChipEight.Proofs.Computer.Stepping

/-!
# Calls and returns

A step that gets to its end moves the stack in one of three ways: not at all, as a call or as a
return (`stackMove_step`). Nothing else of the machine's state is needed to follow a subroutine from
its call to its return, so no range is assumed here: **a step that got to its end has shown by that
alone** that its stack pointer and its program counter were fit for it.

Between a call and its return anything may happen, further calls and returns and stores over the
program included, as long as the pointer does not sink below the depth of the call. `Kept` is the
invariant of such a run (`RunsAbove`): the slots up to that of the call stay as the call has left
them. So the return finds the address of its own call, **whatever was called in between**
(`return_of_call`).
-/

namespace ChipEight.Computer

open Instruction

variable {c c' : Computer} {w : Nat} {i : Instruction}

/-! ### How the stack moves -/

/-- How the stack is moved: the pointer and the slots before and after. -/
inductive StackMove (r r' : Registers) : Prop
  | stay : r'.sp = r.sp → r'.stack = r.stack → StackMove r r'
  | push {slot : Fin 17} {word : UInt16} : r.sp + 1 = slot.val → r'.sp = r.sp + 1 →
      r'.stack = setAt r.stack slot word → StackMove r r'
  | pop : r'.sp = (r.sp - 1) % 256 → r'.stack = r.stack → StackMove r r'

/-- A return that got to its end had a slot. -/
theorem exists_doReturn_eq_done (h0 : 0 ≤ c.registers.sp) (hdone : c.doReturn.halt = none) :
    ∃ slot : Fin 17, c.registers.sp = slot.val ∧
      c.doReturn = .done { c with registers := c.registers.pop slot } := by
  by_cases hbeyond : 16 < c.registers.sp
  · rw [doReturn_eq_faulted hbeyond] at hdone
    cases hdone
  · have hslot : c.registers.sp = (⟨c.registers.sp.toNat, by omega⟩ : Fin 17).val :=
      (Int.toNat_of_nonneg h0).symm
    exact ⟨_, hslot, doReturn_eq_done hslot⟩

/-- A call that got to its end had a slot too, **and an address that fits it**. -/
theorem exists_doCall_eq_done (h0 : 0 ≤ c.registers.sp) {target : Target}
    (hdone : (c.doCall target).halt = none) :
    0 ≤ c.registers.pc ∧ c.registers.pc < 65536 ∧
      ∃ slot : Fin 17, c.registers.sp + 1 = slot.val ∧
        c.doCall target = .done { c with registers := c.registers.push slot target } := by
  by_cases hfull : 16 ≤ c.registers.sp
  · rw [doCall_eq_faulted hfull] at hdone
    cases hdone
  · obtain ⟨slot, hslot⟩ : ∃ slot : Fin 17, c.registers.sp + 1 = slot.val :=
      ⟨⟨(c.registers.sp + 1).toNat, by omega⟩, (Int.toNat_of_nonneg (by omega)).symm⟩
    by_cases hpc : 0 ≤ c.registers.pc ∧ c.registers.pc < 65536
    · exact ⟨hpc.1, hpc.2, slot, hslot, doCall_eq_done hpc.1 (by omega) hslot target⟩
    · -- The host refuses to put such a number into a slot.
      have hword : Registers.word? c.registers.pc = none := if_neg hpc
      have hok : ¬ (stackDepth : Int) ≤ c.registers.sp := hfull
      simp only [doCall, if_neg hok, Registers.pokeSlot] at hdone
      rw [hslot, signedIndex?_natCast slot.isLt] at hdone
      simp only [hword] at hdone
      cases hdone

/-- **An instruction that got to its end** has moved the stack as its kind says. -/
theorem stackMove_perform (h0 : 0 ≤ c.registers.sp) {opcode : Int}
    (hdone : (c.perform opcode i).halt = none) :
    StackMove c.registers (c.perform opcode i).state.registers := by
  rcases i.ret_or_call with rfl | ⟨target, rfl⟩ | ⟨hret, hcall⟩
  · obtain ⟨slot, -, heq⟩ := exists_doReturn_eq_done h0 hdone
    rw [perform, heq]
    exact .pop rfl rfl
  · obtain ⟨-, -, slot, hslot, heq⟩ := exists_doCall_eq_done h0 hdone
    rw [perform, heq]
    exact .push hslot rfl rfl
  · obtain ⟨hsp, hstack⟩ := c.stack_perform opcode hret hcall
    exact .stay hsp hstack

/-! ### Completed steps -/

/-- A step that got to its end has carried out an instruction and then let the timer see the clock.
-/
theorem exists_step_eq_timed (hdone : c.step.halt = none) :
    ∃ w i, c.fetch = .ok w ∧ decode w = some i ∧ (c.performed w i).halt = none ∧
      c.step.state = (c.performed w i).state.timed := by
  cases hfetch : c.fetch with
  | error cause =>
    rw [step_of_fetch_error hfetch] at hdone
    cases hdone
  | ok w =>
    cases hdecode : decode w with
    | none =>
      rw [step_of_unknown hfetch hdecode] at hdone
      cases hdone
    | some i =>
      cases hhalt : (c.performed w i).halt with
      | none =>
        exact ⟨w, i, rfl, hdecode, hhalt, state_step_of_performed hfetch hdecode hhalt⟩
      | some halt =>
        rw [step_of_decode hfetch hdecode, settle, hhalt] at hdone
        cases halt with
        | fault f => cases hdone
        | host e => cases hhalt.symm.trans hdone

/-- The same for a word whose instruction is known. -/
theorem step_eq_timed (hdone : c.step.halt = none) (hfetch : c.fetch = .ok w)
    (hi : StandsFor w i) :
    (c.performed w i).halt = none ∧ c.step.state = (c.performed w i).state.timed := by
  obtain ⟨w', i', hfetch', hdecode', hperformed, heq⟩ := exists_step_eq_timed hdone
  cases hfetch.symm.trans hfetch'
  cases (decode_of_standsFor hi).symm.trans hdecode'
  exact ⟨hperformed, heq⟩

/-- The timer leaves the program counter and the stack alone. -/
theorem stack_timed (c : Computer) :
    c.timed.registers.pc = c.registers.pc ∧ c.timed.registers.sp = c.registers.sp ∧
      c.timed.registers.stack = c.registers.stack := by
  obtain ⟨registers, timer, clock, hregisters, heq⟩ := c.exists_timed_eq
  rw [heq]
  rcases hregisters with rfl | rfl
  · exact ⟨rfl, rfl, rfl⟩
  · exact ⟨rfl, rfl, rfl⟩

/-- **A completed step moves the stack in one of three ways.** -/
theorem stackMove_step (h0 : 0 ≤ c.registers.sp) (hdone : c.step.halt = none) :
    StackMove c.registers c.step.state.registers := by
  obtain ⟨w, i, -, -, hperformed, heq⟩ := exists_step_eq_timed hdone
  have hmove : StackMove c.registers (c.performed w i).state.registers :=
    stackMove_perform (c := c.remembering w) h0 hperformed
  obtain ⟨-, hsp, hstack⟩ := (c.performed w i).state.stack_timed
  rw [heq]
  cases hmove with
  | stay hsp' hstack' => exact .stay (hsp.trans hsp') (hstack.trans hstack')
  | push hslot hsp' hstack' => exact .push hslot (hsp.trans hsp') (hstack.trans hstack')
  | pop hsp' hstack' => exact .pop (hsp.trans hsp') (hstack.trans hstack')

/-- A number that fits a slot is kept there as it is. -/
theorem toNat_ofInt {z : Int} (h0 : 0 ≤ z) (h : z < 65536) :
    ((UInt16.ofInt z).toNat : Int) = z := by
  rw [UInt16.ofInt, UInt16.toNat_ofNat']
  omega

/-- A call that got to its end stands on the next slot, which holds its own address. -/
theorem registers_step_of_call (h0 : 0 ≤ c.registers.sp) (hfetch : c.fetch = .ok w)
    (hcall : w / 0x1000 = 0x2) (hdone : c.step.halt = none) :
    ∃ slot : Fin 17, c.registers.sp + 1 = slot.val ∧
      c.step.state.registers.sp = c.registers.sp + 1 ∧
      ((c.step.state.registers.stack.get slot).toNat : Int) = c.registers.pc ∧
      ∀ k, k ≠ slot → c.step.state.registers.stack.get k = c.registers.stack.get k := by
  obtain ⟨hperformed, heq⟩ := step_eq_timed hdone hfetch (.call hcall)
  obtain ⟨hpc0, hpclt, slot, hslot, hcalled⟩ :=
    exists_doCall_eq_done (c := c.remembering w) h0 hperformed
  obtain ⟨-, hsp, hstack⟩ := (c.performed w (.call (targetOf w))).state.stack_timed
  rw [← heq, performed, perform, hcalled] at hsp hstack
  have hstack' : c.step.state.registers.stack =
      setAt c.registers.stack slot (UInt16.ofInt c.registers.pc) := hstack
  refine ⟨slot, hslot, hsp, ?_, fun k hk ↦ ?_⟩
  · rw [hstack', get_setAt, if_pos rfl]
    exact toNat_ofInt hpc0 hpclt
  · rw [hstack', get_setAt, if_neg fun heq ↦ hk heq.symm]

/-- A return that got to its end goes on behind the address in its slot. -/
theorem registers_step_of_ret (h0 : 0 ≤ c.registers.sp) (hfetch : c.fetch = .ok w)
    (hret : w / 0x1000 = 0x0) (hlow : w % 0x100 = 0xEE) (hdone : c.step.halt = none) :
    ∃ slot : Fin 17, c.registers.sp = slot.val ∧
      c.step.state.registers.pc = wrap16 ((c.registers.stack.get slot).toNat + 2) ∧
      c.step.state.registers.sp = (c.registers.sp - 1) % 256 ∧
      c.step.state.registers.stack = c.registers.stack := by
  obtain ⟨hperformed, heq⟩ := step_eq_timed hdone hfetch (.ret hret hlow)
  obtain ⟨slot, hslot, hreturned⟩ :=
    exists_doReturn_eq_done (c := c.remembering w) h0 hperformed
  obtain ⟨hpc, hsp, hstack⟩ := (c.performed w .ret).state.stack_timed
  rw [← heq, performed, perform, hreturned] at hpc hsp hstack
  exact ⟨slot, hslot, hpc, hsp, hstack⟩

/-! ### Runs within a subroutine -/

/-- From `c` to `c'` by completed steps, with the stack pointer at `floor` or above behind each of
them. Between the steps **all but the registers may be changed from outside**: keys, clock, sink,
and the program itself. -/
inductive RunsAbove (floor : Int) (c : Computer) : Computer → Prop
  | refl : RunsAbove floor c c
  | step {c' : Computer} : RunsAbove floor c c' → c'.step.halt = none →
      floor ≤ c'.step.state.registers.sp → RunsAbove floor c c'.step.state
  | outside {c' c'' : Computer} : RunsAbove floor c c' → c''.registers = c'.registers →
      RunsAbove floor c c''

/-- The pointer is above the depth `d`, and the slots up to the one above it are as they were. -/
structure Kept (d : Nat) (r₀ r : Registers) : Prop where
  above : (d : Int) + 1 ≤ r.sp
  le : r.sp ≤ 16
  slots_eq : ∀ k : Fin 17, k.val ≤ d + 1 → r.stack.get k = r₀.stack.get k

/-- **One move keeps the slots**, because a call writes above the pointer. -/
theorem Kept.move {d : Nat} {r₀ r r' : Registers} (h : Kept d r₀ r) (hmove : StackMove r r')
    (habove : (d : Int) + 1 ≤ r'.sp) : Kept d r₀ r' := by
  have hd := h.above
  have hle := h.le
  cases hmove with
  | stay hsp hstack => exact ⟨habove, by omega, fun k hk ↦ by rw [hstack, h.slots_eq k hk]⟩
  | @push slot word hslot hsp hstack =>
    have hlt := slot.isLt
    refine ⟨habove, by omega, fun k hk ↦ ?_⟩
    -- The slot of the new call is above the pointer, so it is none of the kept ones.
    have hne : slot ≠ k := by
      rintro rfl
      omega
    rw [hstack, get_setAt, if_neg hne, h.slots_eq k hk]
  -- The pointer was above zero, so lowering it has not wrapped.
  | pop hsp hstack => exact ⟨habove, by omega, fun k hk ↦ by rw [hstack, h.slots_eq k hk]⟩

/-- **And so does a whole run**, by induction on its steps. -/
theorem Kept.runsAbove {d : Nat} {r₀ : Registers} (h : Kept d r₀ c.registers)
    (hrun : RunsAbove (d + 1) c c') : Kept d r₀ c'.registers := by
  induction hrun with
  | refl => exact h
  | step _ hdone habove ih =>
    have h0 := ih.above
    exact ih.move (stackMove_step (by omega) hdone) habove
  | outside _ heq ih =>
    rw [heq]
    exact ih

/-- A run of the machine's own steps that all get to their ends is such a run. -/
theorem runsAbove_steps {floor : Int} {n : Nat} (hdone : ∀ m ≤ n, (steps m c).halt = none)
    (habove : ∀ m ≤ n, floor ≤ (steps m c).state.registers.sp) :
    RunsAbove floor c (steps n c).state := by
  induction n with
  | zero => exact .refl
  | succ n ih =>
    have hrun := ih (fun m hm ↦ hdone m (Nat.le_succ_of_le hm))
      fun m hm ↦ habove m (Nat.le_succ_of_le hm)
    have hlast : steps (n + 1) c = (steps n c).andThen (steps 1) := steps_add n 1 c
    have hone : ∀ c' : Computer, steps 1 c' = c'.step := fun c' ↦ Outcome.andThen_done _
    rw [Outcome.andThen_of_none (hdone n (Nat.le_succ n)), hone] at hlast
    have hstep := hdone (n + 1) (Nat.le_refl _)
    have hfloor := habove (n + 1) (Nat.le_refl _)
    rw [hlast] at hstep hfloor ⊢
    exact .step hrun hstep hfloor

/-- **A return comes back to its call.** Let a call get to its end at the depth `d`, and let a run
follow in which the pointer does not sink below `d + 1`. If a return then gets to its end at that
depth, the program goes on behind the call, at the depth of the call and with the slots that the
caller had. -/
theorem return_of_call {d : Nat} (hsp : c.registers.sp = d) (hfetch : c.fetch = .ok w)
    (hcall : w / 0x1000 = 0x2) (hdone : c.step.halt = none)
    (hrun : RunsAbove (d + 1) c.step.state c') (hsp' : c'.registers.sp = d + 1) {w' : Nat}
    (hfetch' : c'.fetch = .ok w') (hret : w' / 0x1000 = 0x0 ∧ w' % 0x100 = 0xEE)
    (hdone' : c'.step.halt = none) :
    c'.step.state.registers.pc = (c.registers.pc + 2) % 65536 ∧
      c'.step.state.registers.sp = d ∧
      ∀ k : Fin 17, k.val ≤ d →
        c'.step.state.registers.stack.get k = c.registers.stack.get k := by
  obtain ⟨slot, hslot, hcalled, hown, hothers⟩ :=
    registers_step_of_call (by omega) hfetch hcall hdone
  have hlt := slot.isLt
  have hkept : Kept d c.step.state.registers c'.registers :=
    Kept.runsAbove ⟨by omega, by omega, fun k _ ↦ rfl⟩ hrun
  obtain ⟨slot', hslot', hpc, hpopped, hstack⟩ :=
    registers_step_of_ret (by omega) hfetch' hret.1 hret.2 hdone'
  -- Both slots stand at `d + 1`, and what the call has put there is still there.
  have heq : slot' = slot := Fin.ext (by omega)
  subst heq
  refine ⟨?_, by omega, fun k hk ↦ ?_⟩
  · rw [hpc, hkept.slots_eq slot' (by omega), hown]
    rfl
  · rw [hstack, hkept.slots_eq k (by omega)]
    exact hothers k fun heq ↦ by
      rw [heq] at hk
      omega

/-- A computer about to call a subroutine that calls another one. -/
def calling : Computer :=
  plain (.initial 0)
    ((Memory.blank 80).load 0 [0x20, 0x04, 0x00, 0x00, 0x20, 0x08, 0x00, 0xEE, 0x00, 0xEE]).1

/-- The inner call and its return are the two steps between the outer call and its own. -/
theorem return_of_calling :
    calling.step.halt = none ∧ (steps 2 calling.step.state).state.step.halt = none ∧
      (steps 2 calling.step.state).state.step.state.registers.pc = 2 := by
  have hcall : calling.fetch = .ok 0x2004 := by decide +kernel
  have hdone : calling.step.halt = none := by decide +kernel
  have hrun : RunsAbove ((0 : Nat) + 1) calling.step.state (steps 2 calling.step.state).state :=
    runsAbove_steps (by decide +kernel) (by decide +kernel)
  have hret : (steps 2 calling.step.state).state.fetch = .ok 0x00EE := by decide +kernel
  have hdone' : (steps 2 calling.step.state).state.step.halt = none := by decide +kernel
  have hsp : (steps 2 calling.step.state).state.registers.sp = (0 : Nat) + 1 := by decide +kernel
  have hreturn :=
    return_of_call (d := 0) rfl hcall (by decide) hdone hrun hsp hret (by decide) hdone'
  exact ⟨hdone, hdone', hreturn.1.trans rfl⟩

end ChipEight.Computer
