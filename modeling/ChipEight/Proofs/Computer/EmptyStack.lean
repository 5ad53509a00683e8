import ChipEight.Proofs.Computer.Restart
import ChipEight.Proofs.Computer.Subroutine

/-!
# Returning too often

A return on an empty stack is not a fault. It reads the bottom slot, which no call ever writes, so
that **the program goes on at address 2** whatever was called before; and it lowers the pointer
below zero, to 255. No slot is there, and no instruction leads back from there: a call and a return
are stopped by the pointer before they touch it, and the others do not touch it at all
(`stack_perform_of_beyond`). Only a reset does.

`empty_return` is the statement for reached computers. That the bottom slot is zero is the one thing
about the past that it needs.
-/

namespace ChipEight.Computer

open Instruction

variable {c : Computer} {w : Nat}

/-! ### A pointer beyond the slots -/

/-- **Beyond the last slot nothing moves the pointer**, and nothing is stored. -/
theorem stack_perform_of_beyond (hsp : 16 < c.registers.sp) (opcode : Int) (i : Instruction) :
    (c.perform opcode i).state.registers.sp = c.registers.sp ∧
      (c.perform opcode i).state.registers.stack = c.registers.stack := by
  rcases i.ret_or_call with rfl | ⟨target, rfl⟩ | ⟨hret, hcall⟩
  · rw [perform, doReturn_eq_faulted hsp]
    exact ⟨rfl, rfl⟩
  · rw [perform, doCall_eq_faulted (by omega)]
    exact ⟨rfl, rfl⟩
  · exact c.stack_perform opcode hret hcall

theorem stack_step_of_beyond (hsp : 16 < c.registers.sp) :
    c.step.state.registers.sp = c.registers.sp ∧
      c.step.state.registers.stack = c.registers.stack := by
  refine step_preserves (P := fun c' ↦
    c'.registers.sp = c.registers.sp ∧ c'.registers.stack = c.registers.stack) ?_ ?_ ?_ ⟨rfl, rfl⟩
  · intro c' opcode fault h
    exact h
  · rintro c' opcode i ⟨heq, hstack⟩
    obtain ⟨heq', hstack'⟩ := stack_perform_of_beyond (c := c') (by omega) opcode i
    exact ⟨heq'.trans heq, hstack'.trans hstack⟩
  · rintro c' ⟨heq, hstack⟩
    obtain ⟨-, heq', hstack'⟩ := c'.stack_timed
    exact ⟨heq'.trans heq, hstack'.trans hstack⟩

/-- **It stays there until the next reset**, by induction on the requests. -/
theorem stack_after_of_beyond (hsp : 16 < c.registers.sp) {requests : List Request}
    (hreset : .reset ∉ requests) :
    (c.after requests).registers.sp = c.registers.sp ∧
      (c.after requests).registers.stack = c.registers.stack := by
  refine after_preserves_of_no_reset (P := fun c' ↦
    c'.registers.sp = c.registers.sp ∧ c'.registers.stack = c.registers.stack)
    ?_ ?_ ?_ ?_ hreset ⟨rfl, rfl⟩
  · rintro c' ⟨heq, hstack⟩
    obtain ⟨heq', hstack'⟩ := stack_step_of_beyond (c := c') (by omega)
    exact ⟨heq'.trans heq, hstack'.trans hstack⟩
  · intro c' keypad h
    exact h
  · intro c' clock h
    exact h
  · intro c' sink h
    exact h

/-- A call or a return, by the digits of the word. -/
def MovesStack (w : Nat) : Prop := w / 0x1000 = 0x2 ∨ w / 0x1000 = 0x0 ∧ w % 0x100 = 0xEE

/-- And from there every call and every return is a fault of the stack. -/
theorem fault_step_of_beyond (hsp : 16 < c.registers.sp) (hfetch : c.fetch = .ok w)
    (hw : MovesStack w) : ∃ f, c.step.halt = some (.fault f) ∧ f.cause.kind = .stack := by
  have hsp' : 16 < (c.remembering w).registers.sp := hsp
  rcases hw with hcall | ⟨hret, hlow⟩
  · have hstop : (c.performed w (.call (targetOf w))).halt =
        some (.fault { cause := .noRoomForCall (targetOf w) }) := by
      rw [performed, perform, doCall_eq_faulted (by omega)]
      rfl
    rw [step_of_stopped hfetch (decode_of_standsFor (.call hcall)) hstop]
    exact ⟨_, rfl, rfl⟩
  · have hstop : (c.performed w .ret).halt = some (.fault { cause := .badReturn }) := by
      rw [performed, perform, doReturn_eq_faulted hsp']
      rfl
    rw [step_of_stopped hfetch (decode_of_standsFor (.ret hret hlow)) hstop]
    exact ⟨_, rfl, rfl⟩

/-! ### The return that leads there -/

/-- **A return on an empty stack is carried out.** It is not stopped by a fault, and the clock can
stop the step only behind it. -/
theorem step_of_empty_ret (hc : c.WellFormed) (hfetch : c.fetch = .ok w)
    (hret : w / 0x1000 = 0x0 ∧ w % 0x100 = 0xEE) (hsp : c.registers.sp = 0) :
    (c.step.halt = none ∨ ∃ e, c.clock.now = .error e ∧ c.step.halt = some (.host e)) ∧
      c.step.state.registers.pc = 2 ∧ c.step.state.registers.sp = 255 ∧
      c.step.state.registers.stack = c.registers.stack := by
  have hi : StandsFor w .ret := .ret hret.1 hret.2
  have hobstacle : c.obstacle .ret = none := by
    rw [obstacle, if_neg (by omega)]
  have hdone : (c.performed w .ret).halt = none := by
    rw [halt_performed hc, hobstacle]
    rfl
  refine ⟨halt_step_of_none hc ((stepObstacle_of_standsFor hfetch hi).trans hobstacle), ?_⟩
  have hreturn : (c.remembering w).doReturn =
      .done { c.remembering w with registers := c.registers.pop bottomSlot } :=
    doReturn_eq_done hsp
  obtain ⟨hpc, hsp', hstack⟩ := (c.performed w .ret).state.stack_timed
  rw [← state_step_of_performed hfetch (decode_of_standsFor hi) hdone, performed, perform, hreturn]
    at hpc hsp' hstack
  refine ⟨hpc.trans ?_, hsp'.trans ?_, hstack⟩
  · -- The bottom slot holds no address, and the program goes on two bytes behind none.
    show wrap16 ((c.registers.stack.get bottomSlot).toNat + 2) = 2
    rw [hc.registers.bottom_eq]
    rfl
  · show (c.registers.sp - 1) % 256 = 255
    rw [hsp]
    rfl

/-- **One return too many.** In a reached computer a return on an empty stack gets to its end,
unless the clock has no answer for the timer, and the program goes on at address 2. From then on
until the next reset the pointer stands at 255 and no slot changes, whatever is asked of the
computer; and a step that comes upon a call or a return faults. A step of a frame is no exception,
since a frame is a list of steps. -/
theorem empty_return (h : c.Reached) (hfetch : c.fetch = .ok w)
    (hret : w / 0x1000 = 0x0 ∧ w % 0x100 = 0xEE) (hsp : c.registers.sp = 0) :
    c.registers.stack.get bottomSlot = 0 ∧
      (c.step.halt = none ∨ ∃ e, c.clock.now = .error e ∧ c.step.halt = some (.host e)) ∧
      c.step.state.registers.pc = 2 ∧ c.step.state.registers.sp = 255 ∧
      ∀ requests, .reset ∉ requests →
        let c' := c.step.state.after requests
        c'.registers.sp = 255 ∧ c'.registers.stack = c.registers.stack ∧
          ∀ w', c'.fetch = .ok w' → MovesStack w' →
            ∃ f, c'.step.halt = some (.fault f) ∧ f.cause.kind = .stack := by
  obtain ⟨hhalt, hpc, hsp', hstack⟩ := step_of_empty_ret h.wellFormed hfetch hret hsp
  refine ⟨h.wellFormed.registers.bottom_eq, hhalt, hpc, hsp', fun requests hreset ↦ ?_⟩
  obtain ⟨hafter, hslots⟩ := stack_after_of_beyond (c := c.step.state) (by omega) hreset
  refine ⟨hafter.trans hsp', hslots.trans hstack, fun w' hfetch' hw' ↦ ?_⟩
  exact fault_step_of_beyond (by omega) hfetch' hw'

/-- A memory with a program that calls a subroutine and then returns twice. -/
def returning : Memory :=
  ((Memory.blank 0x208).load 0x200 [0x22, 0x06, 0x00, 0xEE, 0, 0, 0x00, 0xEE]).1

/-- The second return is the one too many, and the call before it has left no trace. -/
theorem empty_return_returning :
    ∃ c : Computer, c.Reached ∧ c.fetch = .ok 0x00EE ∧ c.registers.sp = 0 ∧
      c.step.state.registers.pc = 2 ∧
      (c.step.state.after [.step, .press 5, .frame, .moveClock 7]).registers.sp = 255 := by
  have hreached : ((starting returning).after [.step, .step]).Reached :=
    (reached_starting (by decide)).after (by decide)
  obtain ⟨hfetch, hsp⟩ :
      ((starting returning).after [.step, .step]).fetch = .ok 0x00EE ∧
        ((starting returning).after [.step, .step]).registers.sp = 0 := by
    decide +kernel
  obtain ⟨-, -, hpc, -, hafter⟩ := empty_return hreached hfetch (by decide) hsp
  exact ⟨_, hreached, hfetch, hsp, hpc,
    (hafter [.step, .press 5, .frame, .moveClock 7] (by decide)).1⟩

end ChipEight.Computer
