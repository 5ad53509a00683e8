import ChipEight.Proofs.Computer.Restart
import Mathlib.Order.Bounds.Basic
import Mathlib.Order.Fin.Basic

/-!
# Waiting for a key

A key wait is an instruction that runs again: with no key down it raises a flag and leaves the
program counter where it is. **While the flag is up, the word at the program counter is the key wait
that raised it** (`Reached.atKeyWait`). A program may write where it likes, but nothing except a key
wait touches the flag, and with the flag up no other instruction has its turn.

So a wait is a state that a step maps to itself (`AtKeyWait.rests`): the timer is passed over, the
clock is not read and no sink is told. It ends with the first step that finds a key down
(`AtKeyWait.taken`), and that step is the first to be timed again, **whatever the clock has done
meanwhile**.

The flag of a computer whose reset was cut short can be a stale one; such computers are not reached.
-/

namespace ChipEight

namespace Keypad

variable {pad : Keypad}

theorem lowest_eq_none_iff : pad.lowest = none ↔ ∀ k, pad.down.get k = false := by
  rw [lowest, List.find?_eq_none]
  exact ⟨fun h k ↦ Bool.eq_false_iff.2 (h k (List.mem_finRange k)),
    fun h k _ ↦ Bool.eq_false_iff.1 (h k)⟩

/-- The key that is taken is the **least** of those that are down. -/
theorem isLeast_of_lowest {key : Fin 16} (h : pad.lowest = some key) :
    IsLeast {k | pad.down.get k = true} key := by
  obtain ⟨hdown, before, behind, hkeys, hbefore⟩ := List.find?_eq_some_iff_append.1 h
  refine ⟨hdown, fun k hk ↦ ?_⟩
  have hsorted := List.pairwise_lt_finRange 16
  have hmem := List.mem_finRange k
  rw [hkeys] at hsorted hmem
  rcases List.mem_append.1 hmem with hk' | hk'
  · -- The keys in front of it are all up.
    have hup := hbefore k hk'
    rw [show pad.down.get k = true from hk] at hup
    exact nomatch hup
  · rcases List.mem_cons.1 hk' with rfl | hk''
    · exact Fin.le_refl k
    · exact Fin.le_of_lt (List.rel_of_pairwise_cons (List.pairwise_append.1 hsorted).2.1 hk'')

end Keypad

namespace Computer

open Instruction

variable {c : Computer} {w : Nat}

/-! ### Where the flag is up -/

/-- The next word is a key wait, and it is the last word that was carried out. -/
structure AtKeyWait (c : Computer) (w : Nat) : Prop where
  fetch_eq : c.fetch = .ok w
  family_eq : w / 0x1000 = 0xF
  low_eq : w % 0x100 = 0x0A
  lastOpcode_eq : c.lastOpcode = w

theorem AtKeyWait.decode_eq (h : c.AtKeyWait w) : decode w = some (.awaitKey (regX w)) :=
  decode_of_standsFor (.awaitKey h.family_eq h.low_eq)

/-- To be at a key wait is a matter of two words. -/
theorem AtKeyWait.congr {c' : Computer} (h : c.AtKeyWait w) (hfetch : c'.fetch = c.fetch)
    (hlast : c'.lastOpcode = c.lastOpcode) : c'.AtKeyWait w :=
  ⟨hfetch.trans h.fetch_eq, h.family_eq, h.low_eq, hlast.trans h.lastOpcode_eq⟩

theorem waiting_timed (c : Computer) : c.timed.waiting = c.waiting := by
  obtain ⟨registers, timer, clock, -, heq⟩ := c.exists_timed_eq
  rw [heq]

/-- **A step that does not come upon a key wait leaves the flag alone**, however it ends. -/
theorem waiting_step (h : ∀ w, c.fetch = .ok w → ∀ x, decode w ≠ some (.awaitKey x)) :
    c.step.state.waiting = c.waiting := by
  refine step_preserves_of_word (P := fun c' ↦ c'.waiting = c.waiting) ?_ ?_ ?_ rfl
  · intro c' opcode fault h'
    exact h'
  · intro w i hfetch hdecode h'
    have hother : ∀ x, i ≠ .awaitKey x := fun x hx ↦ h w hfetch x (hx ▸ hdecode)
    exact ((c.remembering w).waiting_perform w hother).trans h'
  · intro c' h'
    rw [waiting_timed, h']

/-- A key wait is always carried out. -/
theorem step_of_awaitKey {x : Reg} (hfetch : c.fetch = .ok w)
    (hdecode : decode w = some (.awaitKey x)) :
    c.step = ((c.remembering w).doAwaitKey x).finishStep w := by
  rw [step_of_performed hfetch hdecode rfl]
  rfl

/-- With no key down it is the next word once more, and the step ends without the timer. -/
theorem step_of_awaitKey_up {x : Reg} (hfetch : c.fetch = .ok w)
    (hdecode : decode w = some (.awaitKey x)) (hup : c.keypad.lowest = none) :
    c.step = .noted { c.remembering w with waiting := true } (.executed w c.registers true) := by
  have hwait : (c.remembering w).doAwaitKey x = { c.remembering w with waiting := true } := by
    rw [doAwaitKey, show (c.remembering w).keypad.lowest = none from hup]
  rw [step_of_awaitKey hfetch hdecode, hwait]
  rfl

theorem state_step_of_awaitKey_down {x : Reg} {key : Fin 16} (hfetch : c.fetch = .ok w)
    (hdecode : decode w = some (.awaitKey x)) (hdown : c.keypad.lowest = some key) :
    c.step.state =
      (({ c.remembering w with waiting := false }.setV x (UInt8.ofNat key)).next).timed := by
  have htake : (c.remembering w).doAwaitKey x =
      ({ c.remembering w with waiting := false }.setV x (UInt8.ofNat key)).next := by
    rw [doAwaitKey, show (c.remembering w).keypad.lowest = some key from hdown]
  rw [step_of_awaitKey hfetch hdecode, state_finishStep, htake]

/-- **A step keeps the flag truthful.** If it is up afterwards, then either it was up before and the
step had nothing else to do, or the step has raised it. -/
theorem atKeyWait_step (h : c.waiting = true → ∃ w, c.AtKeyWait w)
    (hwait : c.step.state.waiting = true) : ∃ w, c.step.state.AtKeyWait w := by
  by_cases hkey : ∃ w x, c.fetch = .ok w ∧ decode w = some (.awaitKey x)
  · obtain ⟨w, x, hfetch, hdecode⟩ := hkey
    rcases hlowest : c.keypad.lowest with - | key
    · rw [step_of_awaitKey_up hfetch hdecode hlowest]
      have hword := standsFor_of_decode (fetch_eq_ok hfetch).2.2 hdecode
      cases hword with
      | awaitKey hfamily hlow => exact ⟨w, hfetch, hfamily, hlow, rfl⟩
    · rw [state_step_of_awaitKey_down hfetch hdecode hlowest, waiting_timed] at hwait
      exact nomatch hwait
  · have hother : ∀ w, c.fetch = .ok w → ∀ x, decode w ≠ some (.awaitKey x) :=
      fun w hfetch x hdecode ↦ hkey ⟨w, x, hfetch, hdecode⟩
    rw [waiting_step hother] at hwait
    obtain ⟨w, hw⟩ := h hwait
    exact absurd hw.decode_eq (hother w hw.fetch_eq _)

/-- **In a reached computer the flag is truthful.** -/
theorem Reached.atKeyWait (h : c.Reached) (hwait : c.waiting = true) : ∃ w, c.AtKeyWait w := by
  refine h.invariant (P := fun c ↦ c.waiting = true → ∃ w, c.AtKeyWait w)
    ?_ ?_ ?_ ?_ ?_ hwait
  · intro c hdone hwait
    obtain ⟨-, now, -, heq⟩ := exists_reset_eq hdone
    rw [heq] at hwait
    exact nomatch hwait
  · intro c hc
    exact atKeyWait_step hc
  · intro c keypad hc hwait
    obtain ⟨w, hw⟩ := hc hwait
    exact ⟨w, hw.congr rfl rfl⟩
  · intro c clock hc hwait
    obtain ⟨w, hw⟩ := hc hwait
    exact ⟨w, hw.congr rfl rfl⟩
  · intro c sink hc hwait
    obtain ⟨w, hw⟩ := hc hwait
    exact ⟨w, hw.congr rfl rfl⟩

/-! ### Resting -/

/-- Nothing has happened. The computer is as it was, **down to the readings that its clock has
given**, and no sink was told. -/
structure Rests (c : Computer) (o : Outcome Halt Computer) : Prop where
  state_eq : o.state = c
  halt_eq : o.halt = none
  silent : ∀ signal ∈ o.signals, signal.sound? = none

/-- The computer with another keypad, and its clock moved by hand. -/
def passed (c : Computer) (keypad : Keypad) (d : Int) : Computer :=
  { c with keypad := keypad, clock := c.clock.advance d }

theorem passed_zero (c : Computer) : c.passed c.keypad 0 = c := by
  rw [passed, Clock.advance, Int.add_zero]

theorem passed_passed (c : Computer) (keypad keypad' : Keypad) (d d' : Int) :
    (c.passed keypad d).passed keypad' d' = c.passed keypad' (d + d') := by
  rw [passed, passed, passed, Clock.advance, Clock.advance, Clock.advance, Int.add_assoc]

theorem AtKeyWait.passed (h : c.AtKeyWait w) (keypad : Keypad) (d : Int) :
    (c.passed keypad d).AtKeyWait w :=
  h.congr rfl rfl

/-- **With the flag up and no key down a step does nothing.** -/
theorem AtKeyWait.rests (h : c.AtKeyWait w) (hwait : c.waiting = true)
    (hup : ∀ k, c.keypad.down.get k = false) : c.Rests c.step := by
  have hsame : { c.remembering w with waiting := true } = c := by
    rw [remembering, ← h.lastOpcode_eq, ← hwait]
  rw [step_of_awaitKey_up h.fetch_eq h.decode_eq (Keypad.lowest_eq_none_iff.2 hup), hsame]
  refine ⟨rfl, rfl, fun signal hsignal ↦ ?_⟩
  rw [List.mem_singleton.1 hsignal]
  rfl

/-- And neither do many. -/
theorem Rests.steps (h : c.Rests c.step) (n : Nat) : c.Rests (steps n c) := by
  induction n with
  | zero => exact ⟨rfl, rfl, fun _ hsignal ↦ nomatch hsignal⟩
  | succ n ih =>
    rw [Computer.steps, Outcome.andThen_of_none h.halt_eq, h.state_eq]
    refine ⟨ih.state_eq, ih.halt_eq, fun signal hsignal ↦ ?_⟩
    rcases List.mem_append.1 hsignal with hfirst | hlater
    · exact h.silent signal hfirst
    · exact ih.silent signal hlater

/-! ### Waiting -/

/-- What may be asked of a computer without an end of its wait: steps and frames while no key is
down, and at any time keys and the clock. -/
inductive Idles (c : Computer) : Request → Prop
  | step : (∀ k, c.keypad.down.get k = false) → Idles c .step
  | frame : (∀ k, c.keypad.down.get k = false) → Idles c .frame
  | press (code : Int) : Idles c (.press code)
  | release (code : Int) : Idles c (.release code)
  | moveClock (d : Int) : Idles c (.moveClock d)

theorem AtKeyWait.serve_idle (h : c.AtKeyWait w) (hwait : c.waiting = true) {request : Request}
    (hidle : c.Idles request) (hrun : request = .step ∨ request = .frame) :
    c.Rests (c.serve request) := by
  rcases hrun with rfl | rfl
  · obtain ⟨hup⟩ := hidle
    exact h.rests hwait hup
  · obtain - | ⟨hup⟩ := hidle
    exact (h.rests hwait hup).steps _

/-- **A wait changes the keypad and the offset of the clock alone**, and both from outside. -/
theorem AtKeyWait.exists_serve_eq (h : c.AtKeyWait w) (hwait : c.waiting = true)
    {request : Request} (hidle : c.Idles request) :
    ∃ keypad d, (c.serve request).state = c.passed keypad d := by
  have hpad : ∀ pad, ∃ keypad d, (c.withKeypad pad).state = c.passed keypad d := by
    intro pad
    rcases pad with e | keypad
    · exact ⟨_, _, c.passed_zero.symm⟩
    · exact ⟨keypad, 0, ({ c with keypad := keypad }).passed_zero.symm⟩
  rcases hidle with hup | hup | code | code | d
  · exact ⟨_, _, (h.rests hwait hup).state_eq.trans c.passed_zero.symm⟩
  · exact ⟨_, _, ((h.rests hwait hup).steps _).state_eq.trans c.passed_zero.symm⟩
  · exact hpad _
  · exact hpad _
  · exact ⟨c.keypad, d, rfl⟩

/-! ### The end of a wait -/

/-- The step that has taken a key: the key is in the register, the program goes on behind the wait,
and **the countdown registers were lowered by one at most**. Everything else but the timer and the
clock is as it was. -/
structure KeyTaken (c : Computer) (x : Reg) (key : Fin 16) (c' : Computer) : Prop where
  v_eq : ∀ k, c'.v k = if x = k then UInt8.ofNat key else c.v k
  pc_eq : c'.registers.pc = wrap16 (c.registers.pc + 2)
  delay_ge : c.registers.delay - 1 ≤ c'.registers.delay
  delay_le : c'.registers.delay ≤ c.registers.delay
  sound_ge : c.registers.sound - 1 ≤ c'.registers.sound
  sound_le : c'.registers.sound ≤ c.registers.sound
  frame : ∃ v pc delay sound timer clock, c' =
    { c with
      registers := { c.registers with v := v, pc := pc, delay := delay, sound := sound }
      timer := timer
      clock := clock
      waiting := false }

/-- A countdown register is lowered by one at most. -/
theorem countDown_bounds (r : Registers) :
    r.delay - 1 ≤ r.countDown.delay ∧ r.countDown.delay ≤ r.delay ∧
      r.sound - 1 ≤ r.countDown.sound ∧ r.countDown.sound ≤ r.sound := by
  simp only [Registers.countDown]
  omega

/-- **The first step that finds a key down takes the lowest**, and ends, unless the clock has no
answer for the timer. -/
theorem AtKeyWait.taken (h : c.AtKeyWait w) {key : Fin 16} (hkey : c.keypad.lowest = some key) :
    c.KeyTaken (regX w) key c.step.state ∧
      (c.step.halt = none ∨ ∃ e, c.clock.now = .error e ∧ c.step.halt = some (.host e)) := by
  constructor
  · have hsame : ({ c.remembering w with waiting := false } : Computer) =
        { c with waiting := false } := by
      rw [remembering, ← h.lastOpcode_eq]
    rw [state_step_of_awaitKey_down h.fetch_eq h.decode_eq hkey, hsame]
    obtain ⟨registers, timer, clock, hregisters, heq⟩ :=
      (({ c with waiting := false }.setV (regX w) (UInt8.ofNat key)).next).exists_timed_eq
    have hbounds := countDown_bounds c.registers
    rw [heq]
    rcases hregisters with rfl | rfl
    · refine ⟨fun k ↦ Registers.v_setV _ _ _ _, rfl, ?_, ?_, ?_, ?_, ⟨_, _, _, _, _, _, rfl⟩⟩
      · exact Int.sub_le_self _ (by decide)
      · exact Int.le_refl _
      · exact Int.sub_le_self _ (by decide)
      · exact Int.le_refl _
    · exact ⟨fun k ↦ Registers.v_setV _ _ _ _, rfl, hbounds.1, hbounds.2.1, hbounds.2.2.1,
        hbounds.2.2.2, ⟨_, _, _, _, _, _, rfl⟩⟩
  · have hclock : ((c.remembering w).doAwaitKey (regX w)).clock = c.clock :=
      ((c.remembering w).doAwaitKey_leavesAlone (regX w)).clock_eq
    rw [step_of_awaitKey h.fetch_eq h.decode_eq, ← hclock]
    exact halt_finishStep _ _

/-- **A key wait, from the flag to the key.** If a reached computer waits, the word at its program
counter is a key wait. While it idles, each step and each frame does nothing; all that changes is
what is changed from outside. And if a key is down at the end of such a time, however long it was,
the next step takes the lowest, with the registers as they were when the wait began. -/
theorem key_wait (h : c.Reached) (hwait : c.waiting = true) :
    ∃ w, c.fetch = .ok w ∧ w / 0x1000 = 0xF ∧ w % 0x100 = 0x0A ∧
      ∀ requests, c.Throughout Idles requests →
        c.Throughout (fun c request ↦ request = .step ∨ request = .frame →
            c.Rests (c.serve request)) requests ∧
          ∃ keypad d, c.after requests = c.passed keypad d ∧
            ((∃ k, keypad.down.get k = true) →
              ∃ key, IsLeast {k | keypad.down.get k = true} key ∧
                (c.passed keypad d).KeyTaken (regX w) key (c.after requests).step.state ∧
                ((c.after requests).step.halt = none ∨
                  ∃ e, (c.after requests).clock.now = .error e ∧
                    (c.after requests).step.halt = some (.host e))) := by
  obtain ⟨w, hw⟩ := h.atKeyWait hwait
  refine ⟨w, hw.fetch_eq, hw.family_eq, hw.low_eq, fun requests hidle ↦ ?_⟩
  -- What holds throughout the wait is that nothing but the keypad and the clock is another.
  obtain ⟨hthrough, keypad, d, hafter⟩ :=
    hidle.invariant (P := fun c' ↦ ∃ keypad d, c' = c.passed keypad d) (by
      rintro _ request ⟨keypad, d, rfl⟩ hrequest
      obtain ⟨keypad', d', heq⟩ := (hw.passed keypad d).exists_serve_eq hwait hrequest
      exact ⟨keypad', d + d', heq.trans (c.passed_passed _ _ _ _)⟩)
    ⟨c.keypad, 0, c.passed_zero.symm⟩
  refine ⟨hthrough.mono ?_, keypad, d, hafter, ?_⟩
  · rintro _ request ⟨⟨keypad, d, rfl⟩, hrequest⟩ hrun
    exact (hw.passed keypad d).serve_idle hwait hrequest hrun
  · rintro ⟨k, hk⟩
    rcases hlowest : keypad.lowest with - | key
    · rw [Keypad.lowest_eq_none_iff.1 hlowest k] at hk
      exact nomatch hk
    · rw [hafter]
      exact ⟨key, Keypad.isLeast_of_lowest hlowest, (hw.passed keypad d).taken hlowest⟩

/-- A memory with a program that waits for a key and keeps it in `V3`. -/
def awaiting : Memory := ((Memory.blank 0x202).load 0x200 [0xF3, 0x0A]).1

/-- Of two keys that go down during the wait the lower one is taken, though it was the second. -/
theorem key_wait_awaiting :
    ∃ c : Computer, c.Reached ∧ c.waiting = true ∧
      c.Throughout Idles [.step, .moveClock 1000000, .frame, .press 7, .press 5] ∧
      (c.after [.step, .moveClock 1000000, .frame, .press 7, .press 5]).step.state.v 3 = 5 := by
  have hreached : ((starting awaiting).after [.step]).Reached :=
    (reached_starting (by decide)).after (by decide)
  obtain ⟨hwait, hfetch⟩ :
      ((starting awaiting).after [.step]).waiting = true ∧
        ((starting awaiting).after [.step]).fetch = .ok 0xF30A := by
    decide +kernel
  have hidle : ((starting awaiting).after [.step]).Throughout Idles
      [.step, .moveClock 1000000, .frame, .press 7, .press 5] := by
    refine ⟨.step ?_, .moveClock _, .frame ?_, .press 7, .press 5, trivial⟩
    · decide +kernel
    · decide +kernel
  obtain ⟨w, hw, -, -, hwaits⟩ := key_wait hreached hwait
  obtain ⟨-, keypad, d, hafter, htaken⟩ := hwaits _ hidle
  have hdown : keypad.down.get 5 = true ∧ ∀ k, keypad.down.get k = true → 5 ≤ k := by
    rw [show keypad = (((starting awaiting).after [.step]).after
      [.step, .moveClock 1000000, .frame, .press 7, .press 5]).keypad by rw [hafter]; rfl]
    decide +kernel
  obtain ⟨key, hleast, hkey, -⟩ := htaken ⟨5, hdown.1⟩
  have hlowest : key = 5 :=
    hleast.unique (show IsLeast {k | keypad.down.get k = true} 5 from ⟨hdown.1, hdown.2⟩)
  refine ⟨_, hreached, hwait, hidle, (hkey.v_eq 3).trans ?_⟩
  cases hfetch.symm.trans hw
  rw [hlowest]
  rfl

end Computer

end ChipEight
