import ChipEight.Proofs.Computer.Background
import ChipEight.Proofs.Computer.Stepping
import ChipEight.Proofs.Sound.Beeping
import ChipEight.Proofs.Timer.Rate

/-!
# Sound and the ticks of the timer

No instruction tells a sink anything, and one alone sets the sound register. So within a step **all
that is heard is heard at a tick** (`Ticks`), and says whether the sound register is still running
when the tick has lowered it (`heard_step`).

`sound_step` and `sound_step_of_startsSound` are the course of the register: a step lowers by a tick
what it has found, or what its instruction has put there. They hold of a step that is halted as
well; it is halted before the timer has its turn, or by the clock that has no answer for it.
-/

namespace ChipEight

namespace Registers

theorem lowered_lowered (z : Int) (k j : Nat) : lowered (lowered z k) j = lowered z (k + j) := by
  by_cases h : 0 < z
  · simp only [lowered, if_pos h]
    split <;> omega
  · simp only [lowered, if_neg h]

/-- A tick lowers the sound register once. -/
theorem sound_countDown (r : Registers) : r.countDown.sound = lowered r.sound 1 := by
  rw [← lowered_succ r.sound 0, lowered_zero]
  rfl

end Registers

namespace Computer

open Instruction Registers

variable {c : Computer} {w : Nat} {i : Instruction} {sink : Sink}

/-! ### Instructions -/

/-- **No instruction tells a sink anything.** -/
theorem silent_perform (c : Computer) (opcode : Int) (i : Instruction) :
    Silent (c.perform opcode i).signals := by
  cases i with
  | ret =>
    simp only [perform, doReturn]
    split
    · exact .nil
    · split <;> exact .nil
  | sys => exact .notice _
  | jump target =>
    rw [perform, doJump]
    split
    · exact .notice _
    · exact .nil
  | call target =>
    simp only [perform, doCall]
    split
    · exact .nil
    · split <;> exact .nil
  | draw x y rows =>
    simp only [perform, doDraw]
    split
    · exact .nil
    · split <;> exact .nil
  | getDelay x =>
    rw [perform, doGetDelay]
    split <;> exact .nil
  | storeDigits x =>
    simp only [perform, doStoreDigits, afterStore]
    split <;> exact .nil
  | storeRegisters x =>
    simp only [perform, doStoreRegisters, afterStore]
    split <;> exact .nil
  | loadRegisters x =>
    simp only [perform, doLoadRegisters]
    split <;> exact .nil
  | _ => exact .nil

/-- Going on is none of the sound register's business. -/
theorem sound_goOn (c : Computer) (cause : Option Fault.Cause) :
    (c.goOn cause).state.registers.sound = c.registers.sound := by
  rcases cause with - | cause
  · rfl
  · rfl

/-- **One instruction alone sets the sound register.** Of those that do not reach their background
it is enough that they leave one alone that holds the register as it was. -/
theorem sound_perform (c : Computer) (opcode : Int) (h : ∀ x, i ≠ .setSound x) :
    (c.perform opcode i).state.registers.sound = c.registers.sound := by
  rcases hreach : i.reachesBackground with - | -
  · have hsame : c.perform opcode i =
        (c.perform opcode i).onState (change id fun t ↦ { t with sound := c.registers.sound }) :=
      c.perform_change (φ := id) (g := fun t ↦ { t with sound := c.registers.sound }) opcode hreach
    rw [hsame]
    rfl
  · cases i with
    | setSound x => exact absurd rfl (h x)
    | draw x y rows =>
      simp only [perform, doDraw]
      split
      · rfl
      · split <;> rfl
    | getDelay x =>
      rw [perform, doGetDelay]
      split <;> rfl
    | setDelay x => rfl
    | storeDigits x => rw [perform, doStoreDigits, afterStore_eq_goOn, sound_goOn]
    | storeRegisters x => rw [perform, doStoreRegisters_eq_goOn, sound_goOn]
    | loadRegisters x =>
      rw [perform, doLoadRegisters_eq_goOn, sound_goOn]
      rfl
    | _ => exact absurd hreach Bool.false_ne_true

/-! ### Steps -/

/-- What a step makes of the sound register when its instruction has left `found` there, and what is
heard meanwhile. -/
structure Sounds (sink : Sink) (found : Int) (ticks : Prop) [Decidable ticks]
    (o : Outcome Halt Computer) : Prop where
  sound_eq : o.state.registers.sound = lowered found (if ticks then 1 else 0)
  heard_eq : heard sink o.signals = if ticks then [decide (0 < o.state.registers.sound)] else []

/-- Without a tick the register stays, and nothing is heard. -/
theorem Sounds.quiet {found : Int} {ticks : Prop} [Decidable ticks] {o : Outcome Halt Computer}
    (h : ¬ ticks) (hsound : o.state.registers.sound = found)
    (hsilent : Silent o.signals) : Sounds sink found ticks o :=
  ⟨by rw [if_neg h, lowered_zero, hsound], by rw [if_neg h, heard_of_silent sink hsilent]⟩

/-- While a key is awaited a step ends without the timer. -/
theorem finishStep_of_waiting (h : c.waiting = true) (opcode : Int) :
    c.finishStep opcode = ⟨c, [.notice (.executed opcode c.registers c.waiting)], none⟩ := by
  rw [finishStep, Outcome.andThen_of_none rfl]
  simp only [Outcome.noted, h, if_true]
  rfl

/-- A clock without an answer halts the step before the timer has done anything. -/
theorem finishStep_of_error (h : c.waiting = false) {e : HostError} (hnow : c.clock.now = .error e)
    (opcode : Int) :
    c.finishStep opcode =
      ⟨c, [.notice (.executed opcode c.registers c.waiting)], some (.host e)⟩ := by
  rw [finishStep, Outcome.andThen_of_none rfl]
  simp only [Outcome.noted, h, updateTimer, Countdown.update, countdown, hnow]
  rfl

theorem finishStep_of_ok (h : c.waiting = false) {now : Binary64} (hnow : c.clock.now = .ok now)
    (opcode : Int) :
    c.finishStep opcode =
      ⟨c.withCountdown (c.countdown.updated now),
        .notice (.executed opcode c.registers c.waiting) :: c.countdown.announcement, none⟩ := by
  rw [finishStep, Outcome.andThen_of_none rfl]
  simp only [Outcome.noted, h, updateTimer, Countdown.update, countdown, hnow]
  rfl

/-- What a sink is told by an update of the timer. -/
theorem heard_announcement (h : c.timerSink = some sink) :
    heard sink c.countdown.announcement =
      if c.timer.isDue then [decide (0 < c.registers.countDown.sound)] else [] := by
  have hsink : c.countdown.sink = some sink := h
  have hregisters : c.countdown.registers = c.registers := rfl
  have htimer : c.countdown.timer = c.timer := rfl
  rw [Countdown.announcement, Timer.announces, hsink, hregisters, htimer]
  rcases c.timer.isDue with - | -
  · rfl
  · exact heard_tell sink _

/-- **The end of a step is a tick if the timer is due and the clock is read once more.** -/
theorem sounds_finishStep (h : c.timerSink = some sink) (opcode : Int) :
    Sounds sink c.registers.sound
      (c.timer.isDue = true ∧ (c.finishStep opcode).state.clock.reads = c.clock.reads + 1)
      (c.finishStep opcode) := by
  have hsilent : Silent [.notice (.executed opcode c.registers c.waiting)] := .notice _
  rcases hwait : c.waiting with - | -
  · rcases hnow : c.clock.now with e | now
    · rw [finishStep_of_error hwait hnow]
      exact .quiet (fun h ↦ Nat.ne_of_lt (Nat.lt_succ_self _) h.2) rfl hsilent
    · rw [finishStep_of_ok hwait hnow]
      have hticks : (c.timer.isDue = true ∧
          (c.withCountdown (c.countdown.updated now)).clock.reads = c.clock.reads + 1) ↔
            c.timer.isDue = true := and_iff_left rfl
      have hregisters : (c.withCountdown (c.countdown.updated now)).registers =
        c.timer.applyTo c.registers := rfl
      constructor
      · simp only [hregisters, hticks, Timer.applyTo]
        split
        · exact sound_countDown _
        · exact (lowered_zero _).symm
      · simp only [hregisters, hticks, heard_notice, heard_announcement h, Timer.applyTo]
        split <;> rfl
  · rw [finishStep_of_waiting hwait]
    exact .quiet (fun h ↦ Nat.ne_of_lt (Nat.lt_succ_self _) h.2) rfl hsilent

/-- The next step is a tick of the timer: the period was used up when the clock was last read, and
the step reads it again. -/
def Ticks (c : Computer) : Prop :=
  c.timer.isDue = true ∧ c.step.state.clock.reads = c.clock.reads + 1

instance (c : Computer) : Decidable c.Ticks := inferInstanceAs (Decidable (_ ∧ _))

/-- A step that leaves the clock alone is no tick. -/
theorem not_ticks (h : c.step.state.clock = c.clock) : ¬ c.Ticks := by
  rintro ⟨-, hreads⟩
  rw [h] at hreads
  exact Nat.ne_of_lt (Nat.lt_succ_self _) hreads

/-- The next word copies a register that holds `v` to the sound register. -/
def StartsSound (c : Computer) (v : UInt8) : Prop :=
  ∃ w, c.fetch = .ok w ∧ w / 0x1000 = 0xF ∧ w % 0x100 = 0x18 ∧ c.v (regX w) = v

/-- A step that is not carried out starts no sound. -/
theorem not_startsSound_of_decode {v : UInt8} (hfetch : c.fetch = .ok w)
    (hi : ∀ x, decode w ≠ some (.setSound x)) : ¬ c.StartsSound v := by
  rintro ⟨w', hfetch', hfamily, hlow, -⟩
  cases hfetch.symm.trans hfetch'
  exact hi _ (decode_of_standsFor (.setSound hfamily hlow))

/-- What the instruction of a step leaves in the sound register. -/
theorem sound_performed (hfetch : c.fetch = .ok w) (hi : decode w = some i) :
    (∀ v, c.StartsSound v → (c.performed w i).state.registers.sound = v.toNat) ∧
      ((∀ v, ¬ c.StartsSound v) → (c.performed w i).state.registers.sound = c.registers.sound) := by
  by_cases hset : ∃ x, i = .setSound x
  · obtain ⟨x, rfl⟩ := hset
    have hword := standsFor_of_decode (fetch_eq_ok hfetch).2.2 hi
    cases hword with
    | setSound hfamily hlow =>
      refine ⟨?_, fun hno ↦ absurd ⟨w, hfetch, hfamily, hlow, rfl⟩ (hno _)⟩
      rintro v ⟨w', hfetch', -, -, rfl⟩
      cases hfetch.symm.trans hfetch'
      rfl
  · have hother : ∀ x, i ≠ .setSound x := fun x hx ↦ hset ⟨x, hx⟩
    refine ⟨fun v hv ↦ ?_, fun _ ↦ sound_perform (c.remembering w) w hother⟩
    exact absurd hv
      (not_startsSound_of_decode hfetch fun x hx ↦ hother x (Option.some.inj (hi ▸ hx)))

/-- A step that faults is over before the timer has its turn. -/
theorem sounds_of_recordFault {c' : Computer} {signals : List Signal} {cause : Fault.Cause}
    {opcode : Option Int} (hclock : c'.clock = c.clock)
    (hsilent : Silent signals)
    (hstep : c.step = { c'.recordFault cause opcode with
      signals := signals ++ (c'.recordFault cause opcode).signals }) :
    Sounds sink c'.registers.sound c.Ticks c.step := by
  have hsame : c.step.state.clock = c.clock := by
    rw [hstep]
    exact hclock
  refine .quiet (not_ticks hsame) (by rw [hstep]; rfl) ?_
  rw [hstep]
  exact hsilent.append (.notice _)

/-- **What a step does to the sound register, and what is heard of it**: the instruction leaves what
it has found there, or what it starts the register with, and a tick lowers it. -/
theorem sounds_step (h : c.timerSink = some sink) :
    ∃ found, Sounds sink found c.Ticks c.step ∧ (∀ v, c.StartsSound v → found = v.toNat) ∧
      ((∀ v, ¬ c.StartsSound v) → found = c.registers.sound) := by
  rcases hfetch : c.fetch with cause | w
  · refine ⟨_, sounds_of_recordFault rfl .nil (step_of_fetch_error hfetch), ?_, fun _ ↦ rfl⟩
    rintro v ⟨w, hw, -⟩
    exact nomatch hfetch.symm.trans hw
  rcases hi : decode w with - | i
  · have hclock : (c.remembering w).clock = c.clock := rfl
    refine ⟨_, sounds_of_recordFault hclock .nil (step_of_unknown hfetch hi), ?_, fun _ ↦ rfl⟩
    intro v hv
    exact absurd hv (not_startsSound_of_decode hfetch fun x hx ↦ nomatch hi.symm.trans hx)
  refine ⟨_, ?_, sound_performed hfetch hi⟩
  have halone := (c.remembering w).perform_leavesAlone w i
  have hclock : (c.performed w i).state.clock = c.clock := halone.clock_eq
  have htimer : (c.performed w i).state.timer = c.timer := halone.timer_eq
  have hsink : (c.performed w i).state.timerSink = some sink := halone.timerSink_eq.trans h
  have hsilent : Silent (c.performed w i).signals := (c.remembering w).silent_perform w i
  rcases hhalt : (c.performed w i).halt with - | f | e
  · -- The instruction was carried out, and the rest of the step is the timer's.
    have hend := sounds_finishStep hsink (w : Int)
    rw [htimer, hclock] at hend
    have hstep := step_of_performed hfetch hi hhalt
    rw [Outcome.andThen_of_none hhalt] at hstep
    have hticks : c.Ticks ↔ c.timer.isDue = true ∧
        ((c.performed w i).state.finishStep w).state.clock.reads = c.clock.reads + 1 := by
      rw [Ticks, hstep]
    constructor
    · simp only [hticks, hstep]
      exact hend.sound_eq
    · simp only [hticks, hstep, heard_append, heard_of_silent sink hsilent, List.nil_append]
      exact hend.heard_eq
  · exact sounds_of_recordFault hclock hsilent (step_of_stopped hfetch hi hhalt)
  · have hstep : c.step = c.performed w i := by
      rw [step_of_decode hfetch hi, settle_of_host hhalt]
    rw [hstep]
    exact .quiet (not_ticks (by rw [hstep]; exact hclock)) rfl hsilent

end Computer

end ChipEight
