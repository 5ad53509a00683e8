import ChipEight.Proofs.Computer.Stepping

/-!
# When a step faults

`StepFault` lists the faults of a step by **nothing but the digits of its word and the numbers in
four registers and the capacity of the memory**: the program counter for the fetch, the stack
pointer for calls and returns, and the address register for the words that work on a block of
memory. `step_faults_iff` says that the list is complete and that nothing on it is idle: a step of a
well-formed computer faults with a cause exactly if the list has it.

The memory is to have fewer than `0x10000` bytes. Then the addresses of a block, which are wrapped
to sixteen bits, **leave the memory before they wrap**, and no block is continued at its bottom. In
a full memory it would be.
-/

namespace ChipEight.Computer

open Instruction

variable {c : Computer} {w : Nat} {cause : Fault.Cause}

/-- The faults of a step. The causes name the first address that is missing, the target of the call
and the word, in this order. -/
inductive StepFault (c : Computer) : Fault.Cause → Prop
  /-- One of the two bytes of the word is not in the memory. -/
  | fetch : c.memory.capacity ≤ c.registers.pc + 1 →
      StepFault c (.outOfBounds
        (if c.memory.capacity ≤ c.registers.pc then c.registers.pc else c.memory.capacity)
        c.memory.capacity)
  | unknown {w : Nat} : c.fetch = .ok w → IsUnknown w → StepFault c (.unknownOpcode w)
  | call {w : Nat} : c.fetch = .ok w → w / 0x1000 = 0x2 → 16 ≤ c.registers.sp →
      StepFault c (.noRoomForCall (w % 0x1000))
  | ret {w : Nat} : c.fetch = .ok w → w / 0x1000 = 0x0 → w % 0x100 = 0xEE → 16 < c.registers.sp →
      StepFault c .badReturn
  /-- The block that the word works on is not empty and reaches beyond the end of the memory. -/
  | block {w : Nat} : c.fetch = .ok w → 0 < wordSpan w →
      c.memory.capacity < c.registers.i + wordSpan w →
      StepFault c (.outOfBounds (max c.registers.i c.memory.capacity) c.memory.capacity)

/-! ### The obstacle by the digits of the word -/

theorem stepObstacle_of_fetch_error (h0 : 0 ≤ c.registers.pc)
    (h : c.memory.capacity ≤ c.registers.pc + 1) :
    c.stepObstacle = some (c.memory.faultAt (max c.registers.pc c.memory.capacity)) := by
  rw [stepObstacle, fetch_eq_error h0 h]

theorem stepObstacle_of_isUnknown (h : c.fetch = .ok w) (hw : IsUnknown w) :
    c.stepObstacle = some (.unknownOpcode w) := by
  have hnone : decode w = none := (decode_eq_none_iff (fetch_eq_ok h).2.2).2 hw
  simp only [stepObstacle, h, hnone]

/-- A word with a block is an instruction that the block decides. -/
theorem stepObstacle_of_wordSpan_pos (hc : c.WellFormed) (hsmall : c.memory.capacity < 65536)
    (h : c.fetch = .ok w) (hpos : 0 < wordSpan w) :
    c.stepObstacle = c.memory.blockFault c.registers.i (wordSpan w) := by
  have hw := (fetch_eq_ok h).2.2
  obtain ⟨i, hi⟩ : ∃ i, decode w = some i := by
    refine Option.ne_none_iff_exists'.1 fun hnone ↦ ?_
    rw [wordSpan_of_isUnknown ((decode_eq_none_iff hw).1 hnone)] at hpos
    exact absurd hpos (Nat.lt_irrefl 0)
  have hspan := span_eq_wordSpan (standsFor_of_decode hw hi)
  rw [← hspan] at hpos ⊢
  -- Neither a return nor a call works on a block.
  have hret : i ≠ .ret := by
    rintro rfl
    exact absurd hpos (Nat.lt_irrefl 0)
  have hcall : ∀ target, i ≠ .call target := by
    rintro target rfl
    exact absurd hpos (Nat.lt_irrefl 0)
  rw [stepObstacle_of_standsFor h (standsFor_of_decode hw hi),
    obstacle_eq_blockFault hc hsmall hret hcall]

/-! ### The list is complete, and nothing on it is idle -/

theorem stepObstacle_of_stepFault (hc : c.WellFormed) (hsmall : c.memory.capacity < 65536)
    (h : c.StepFault cause) : c.stepObstacle = some cause := by
  cases h with
  | fetch hout =>
    rw [stepObstacle_of_fetch_error hc.registers.pc_nonneg hout, Memory.faultAt]
    congr 2
    omega
  | unknown hfetch hw => exact stepObstacle_of_isUnknown hfetch hw
  | call hfetch hw hsp =>
    rw [stepObstacle_of_standsFor hfetch (.call hw), obstacle, if_pos hsp]
    rfl
  | ret hfetch hw hlow hsp =>
    rw [stepObstacle_of_standsFor hfetch (.ret hw hlow), obstacle, if_pos hsp]
  | block hfetch hpos hover =>
    rw [stepObstacle_of_wordSpan_pos hc hsmall hfetch hpos, Memory.blockFault, if_neg (by omega)]
    rfl

/-- An instruction's obstacle is on the list, under the word that it was decoded from. -/
theorem stepFault_of_obstacle (hc : c.WellFormed) (hsmall : c.memory.capacity < 65536)
    (hfetch : c.fetch = .ok w) {i : Instruction} (hi : StandsFor w i)
    (h : c.obstacle i = some cause) : c.StepFault cause := by
  rcases i.ret_or_call with rfl | ⟨target, rfl⟩ | ⟨hret, hcall⟩
  · obtain ⟨hsp, heq⟩ := Option.ite_none_right_eq_some.1 h
    cases heq
    cases hi with
    | ret hw hlow => exact .ret hfetch hw hlow hsp
  · obtain ⟨hsp, heq⟩ := Option.ite_none_right_eq_some.1 h
    cases heq
    cases hi with
    | call hw => exact .call hfetch hw hsp
  · -- All others are stopped by their block, if at all, and it is the block of the word.
    obtain ⟨hpos, hover, rfl⟩ := block_of_obstacle hc hsmall h hret hcall
    rw [span_eq_wordSpan hi] at hpos hover
    exact .block hfetch hpos hover

theorem stepFault_of_stepObstacle (hc : c.WellFormed) (hsmall : c.memory.capacity < 65536)
    (h : c.stepObstacle = some cause) : c.StepFault cause := by
  by_cases hout : c.memory.capacity ≤ c.registers.pc + 1
  · rw [stepObstacle_of_fetch_error hc.registers.pc_nonneg hout] at h
    have hmax : max c.registers.pc c.memory.capacity =
        if c.memory.capacity ≤ c.registers.pc then c.registers.pc else c.memory.capacity := by
      omega
    rw [← Option.some.inj h, Memory.faultAt, hmax]
    exact .fetch hout
  · obtain ⟨w, hfetch⟩ := exists_fetch_eq_ok hc.registers.pc_nonneg (Int.not_le.1 hout)
    have hw := (fetch_eq_ok hfetch).2.2
    cases hdecode : decode w with
    | none =>
      have hunknown := (decode_eq_none_iff hw).1 hdecode
      rw [stepObstacle_of_isUnknown hfetch hunknown] at h
      cases h
      exact .unknown hfetch hunknown
    | some i =>
      have hi := standsFor_of_decode hw hdecode
      rw [stepObstacle_of_standsFor hfetch hi] at h
      exact stepFault_of_obstacle hc hsmall hfetch hi h

/-- **The obstacles of steps are the faults of the list.** -/
theorem stepObstacle_eq_some_iff (hc : c.WellFormed) (hsmall : c.memory.capacity < 65536) :
    c.stepObstacle = some cause ↔ c.StepFault cause :=
  ⟨stepFault_of_stepObstacle hc hsmall, stepObstacle_of_stepFault hc hsmall⟩

/-! ### Faults of steps -/

/-- A step that is not stopped by a fault had its whole block in the memory, **below the wrap**. -/
theorem block_of_halt_step (hc : c.WellFormed) (hsmall : c.memory.capacity < 65536)
    (hfetch : c.fetch = .ok w) (h : ∀ cause, ¬ c.StepFault cause) {k : Nat} (hk : k < wordSpan w) :
    wrap16 (c.registers.i + k) = c.registers.i + k ∧ c.registers.i + k < c.memory.capacity := by
  have h0 := hc.registers.i_nonneg
  have hfits : c.registers.i + wordSpan w ≤ c.memory.capacity :=
    Int.not_lt.1 fun hover ↦ h _ (.block hfetch (by omega) hover)
  exact ⟨wrap16_eq_self (by omega) (by omega), by omega⟩

/-- A computer of eighty bytes that is about to store the registers `V0` to `V3` from the last but
one address on. -/
def storing : Computer :=
  plain { Registers.initial 0 with i := 78, v := Vector.replicate 16 7 }
    ((Memory.blank 80).load 0 [0xF3, 0x55]).1

theorem wellFormed_storing : storing.WellFormed :=
  wellFormed_plain (((Registers.InRange.initial (Int.le_refl 0) (by decide)).setI
    (by decide) (by decide)).withV _) _

theorem capacity_storing : storing.memory.capacity ≤ 0xFFFF := by decide

theorem fetch_storing : storing.fetch = .ok 0xF355 := by decide

/-- **When a step faults, and with what.** The three parts say that the faults are those of the
list; that a step without one gets to its end, unless the clock has no answer for the timer; and
that a step which got there has touched no address beyond the memory and none that was wrapped. -/
theorem step_faults_iff (hc : c.WellFormed) (hsmall : c.memory.capacity ≤ 0xFFFF) :
    (∀ cause, (∃ place, c.step.halt = some (.fault ⟨cause, place⟩)) ↔ c.StepFault cause) ∧
      ((c.step.halt = none ∨ ∃ e, c.clock.now = .error e ∧ c.step.halt = some (.host e)) ↔
        ∀ cause, ¬ c.StepFault cause) ∧
      (c.step.halt = none → ∀ w, c.fetch = .ok w → ∀ k < wordSpan w,
        wrap16 (c.registers.i + k) = c.registers.i + k ∧
          c.registers.i + k < c.memory.capacity) := by
  have hlt : c.memory.capacity < 65536 := by omega
  have hfault : ∀ cause, (∃ place, c.step.halt = some (.fault ⟨cause, place⟩)) ↔
      c.StepFault cause := fun cause ↦
    (halt_step_eq_fault_iff hc cause).trans (stepObstacle_eq_some_iff hc hlt)
  have hnone : c.step.halt = none → ∀ cause, ¬ c.StepFault cause := fun hdone cause hcause ↦ by
    obtain ⟨place, hplace⟩ := (hfault cause).2 hcause
    cases hdone.symm.trans hplace
  refine ⟨hfault, ⟨?_, fun h ↦ ?_⟩, fun hdone w hfetch k hk ↦ ?_⟩
  · rintro (hdone | ⟨e, -, he⟩) cause hcause
    · exact hnone hdone cause hcause
    · obtain ⟨place, hplace⟩ := (hfault cause).2 hcause
      cases he.symm.trans hplace
  · refine halt_step_of_none hc (Option.eq_none_iff_forall_ne_some.2 fun cause hcause ↦ ?_)
    exact h cause ((stepObstacle_eq_some_iff hc hlt).1 hcause)
  · exact block_of_halt_step hc hlt hfetch (hnone hdone) hk

/-- The store of four registers to the last two of eighty bytes faults at the end. -/
theorem step_faults_storing :
    storing.WellFormed ∧ storing.memory.capacity ≤ 0xFFFF ∧
      ∃ place, storing.step.halt = some (.fault ⟨.outOfBounds 80 80, place⟩) := by
  have hfault : storing.StepFault (.outOfBounds 80 80) :=
    .block fetch_storing (by decide) (by decide)
  exact ⟨wellFormed_storing, capacity_storing,
    ((step_faults_iff wellFormed_storing capacity_storing).1 _).2 hfault⟩

end ChipEight.Computer
