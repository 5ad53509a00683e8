import ChipEight.Proofs.Computer.Aftermath
import ChipEight.Proofs.Computer.Restart
import ChipEight.Proofs.Memory.Run

/-!
# Faults that recur

Nothing in a step asks whether the machine has faulted before. It is stepped again from where the
fault has left it, and what comes next is settled by the program counter, the stack pointer, `I` and
the memory. A faulting step leaves the first three alone, so **it faults again in the same way if
the word is still there** (`fault_recurs`), and again, until the next reset.

What it leaves of the memory is the part of a store that lies in it. To store the same bytes once
more changes nothing (`Memory.writeAll_writeAll`), and so the first fault decides: a word that is
there after it stays.

**A store can be stopped behind its own word.** Then the machine goes on with whatever word was put
there, although its state still says that it has faulted (`not_fault_recurs`).
-/

namespace ChipEight

namespace Computer

open Instruction

variable {c c' : Computer} {w : Nat} {i : Instruction} {cause : Fault.Cause}

/-! ### Stopped once -/

/-- The bytes that an instruction is to store. -/
def storedBy (c : Computer) : Instruction → List (Int × UInt8)
  | .storeDigits x => blockAt c.registers.i (digits (c.v x))
  | .storeRegisters x => blockAt c.registers.i (c.firstRegisters x)
  | _ => []

theorem storedBy_congr (hv : c'.registers.v = c.registers.v) (hi : c'.registers.i = c.registers.i) :
    c'.storedBy i = c.storedBy i := by
  cases i with
  | storeDigits x => rw [storedBy, storedBy, v, v, hv, hi]
  | storeRegisters x => rw [storedBy, storedBy, firstRegisters, firstRegisters, hv, hi]
  | _ => rfl

/-- What a stopped instruction leaves: the registers that say where the machine stands, and the
memory **with as much of a run as could be stored**. -/
structure Stopped (c c' : Computer) (run : List (Int × UInt8)) : Prop where
  pc_eq : c'.registers.pc = c.registers.pc
  sp_eq : c'.registers.sp = c.registers.sp
  i_eq : c'.registers.i = c.registers.i
  memory_eq : c'.memory = (c.memory.writeAll run).1

theorem Stopped.capacity_eq {run : List (Int × UInt8)} (h : c.Stopped c' run) :
    c'.memory.capacity = c.memory.capacity := by
  rw [h.memory_eq, Memory.capacity_writeAll]

theorem Stopped.context_eq {run : List (Int × UInt8)} (h : c.Stopped c' run)
    (opcode : Option Int) : c'.context opcode = c.context opcode := by
  simp only [context, h.pc_eq, h.sp_eq, h.i_eq]

theorem stopped_storing (c : Computer) (run : List (Int × UInt8)) (cause : Fault.Cause) :
    c.Stopped ({ c with memory := (c.memory.writeAll run).1 }.goOn (some cause)).state run :=
  ⟨rfl, rfl, rfl, rfl⟩

theorem stopped_loading (c : Computer) (bytes : List UInt8) (cause : Fault.Cause) :
    c.Stopped ({ c with registers := c.registers.setFirst bytes }.goOn (some cause)).state [] :=
  ⟨Registers.pc_setFirst _ _, Registers.sp_setFirst _ _, Registers.i_setFirst _ _, rfl⟩

/-- **A stopped instruction has stored what it could**, and still has the same bytes to store. -/
theorem stopped_perform (hc : c.WellFormed) (h : c.obstacle i = some cause) (opcode : Int) :
    c.Stopped (c.perform opcode i).state (c.storedBy i) ∧
      (c.perform opcode i).state.storedBy i = c.storedBy i := by
  cases i with
  | ret =>
    obtain ⟨hsp, -⟩ := Option.ite_none_right_eq_some.1 h
    rw [perform, doReturn_eq_faulted hsp]
    exact ⟨⟨rfl, rfl, rfl, rfl⟩, rfl⟩
  | call target =>
    obtain ⟨hsp, -⟩ := Option.ite_none_right_eq_some.1 h
    rw [perform, doCall_eq_faulted hsp]
    exact ⟨⟨rfl, rfl, rfl, rfl⟩, rfl⟩
  | draw x y rows =>
    obtain ⟨screen, collision, -, heq⟩ := exists_doDraw_eq hc.screen x y rows
    rw [perform, heq, show (c.memory.readAll _).2 = some cause from h]
    exact ⟨⟨rfl, rfl, rfl, rfl⟩, by simp only [storedBy]⟩
  | storeDigits x =>
    rw [perform, doStoreDigits_eq_goOn hc.registers,
      show (c.memory.writeAll _).2 = some cause from h]
    exact ⟨c.stopped_storing _ cause, storedBy_congr rfl rfl⟩
  | storeRegisters x =>
    rw [perform, doStoreRegisters_eq_goOn, show (c.memory.writeAll _).2 = some cause from h]
    exact ⟨c.stopped_storing _ cause, storedBy_congr rfl rfl⟩
  | loadRegisters x =>
    rw [perform, doLoadRegisters_eq_goOn, show (c.memory.readAll _).2 = some cause from h]
    exact ⟨c.stopped_loading _ cause, by simp only [storedBy]⟩
  -- No other instruction has an obstacle.
  | _ => cases h

/-- **The obstacle of an instruction** is in the stack pointer, in `I` and in how much memory there
is. -/
theorem obstacle_congr (hsp : c'.registers.sp = c.registers.sp)
    (hi : c'.registers.i = c.registers.i) (hcap : c'.memory.capacity = c.memory.capacity)
    (hstored : c'.storedBy i = c.storedBy i) :
    c'.obstacle i = c.obstacle i := by
  cases i with
  | ret => rw [obstacle, obstacle, hsp]
  | call target => rw [obstacle, obstacle, hsp]
  | draw x y rows => rw [obstacle, obstacle, hi, Memory.fault_readAll_congr hcap]
  | loadRegisters x => rw [obstacle, obstacle, hi, Memory.fault_readAll_congr hcap]
  | storeDigits x =>
    show (c'.memory.writeAll (c'.storedBy (.storeDigits x))).2 = _
    rw [hstored, Memory.fault_writeAll_congr hcap]
    rfl
  | storeRegisters x =>
    show (c'.memory.writeAll (c'.storedBy (.storeRegisters x))).2 = _
    rw [hstored, Memory.fault_writeAll_congr hcap]
    rfl
  | _ => rfl

/-! ### The word at the program counter -/

/-- The word of the next step, if there is one, as a fault names it. -/
def nextWord (c : Computer) : Option Int :=
  match c.fetch with
  | .ok w => some (w : Int)
  | .error _ => none

/-- The bytes that the next step is to store. -/
def storedNext (c : Computer) : List (Int × UInt8) :=
  match c.fetch with
  | .error _ => []
  | .ok w =>
    match decode w with
    | none => []
    | some i => c.storedBy i

theorem storedNext_of_decode (hfetch : c.fetch = .ok w) (hdecode : decode w = some i) :
    c.storedNext = c.storedBy i := by
  simp only [storedNext, hfetch, hdecode]

theorem nextWord_of_fetch (hfetch : c.fetch = .ok w) : c.nextWord = some (w : Int) := by
  simp only [nextWord, hfetch]

/-- **A step with an obstacle** faults at the place where it began, and leaves what its instruction
has left. -/
theorem stopped_step (hc : c.WellFormed) (h : c.stepObstacle = some cause) :
    c.step.halt = some (.fault ⟨cause, some (c.context c.nextWord)⟩) ∧
      c.Stopped c.step.state c.storedNext ∧
      (c.step.state.fetch = c.fetch → c.step.state.storedNext = c.storedNext) := by
  rw [stepObstacle] at h
  rcases hfetch : c.fetch with error | w
  · simp only [hfetch] at h
    cases h
    have hword : c.nextWord = none := by
      simp only [nextWord, hfetch]
    have hnothing : c.storedNext = [] := by
      simp only [storedNext, hfetch]
    rw [step_of_fetch_error hfetch, hword, hnothing]
    refine ⟨rfl, ⟨rfl, rfl, rfl, rfl⟩, fun hsame ↦ ?_⟩
    simp only [storedNext, hsame]
  · simp only [hfetch] at h
    rw [nextWord_of_fetch hfetch]
    rcases hdecode : decode w with - | i
    · simp only [hdecode] at h
      cases h
      have hnothing : c.storedNext = [] := by
        simp only [storedNext, hfetch, hdecode]
      rw [step_of_unknown hfetch hdecode, hnothing]
      refine ⟨rfl, ⟨rfl, rfl, rfl, rfl⟩, fun hsame ↦ ?_⟩
      simp only [storedNext, hsame, hdecode]
    · simp only [hdecode] at h
      have hstop := halt_performed hc w i
      rw [h] at hstop
      obtain ⟨hstopped, hstored⟩ :=
        stopped_perform (hc.remembering w) ((obstacle_remembering c w i).trans h) w
      rw [step_of_stopped hfetch hdecode hstop, storedNext_of_decode hfetch hdecode]
      refine ⟨?_, ⟨hstopped.pc_eq, hstopped.sp_eq, hstopped.i_eq, hstopped.memory_eq⟩,
        fun hsame ↦ ?_⟩
      · show some (Halt.fault ⟨cause, some ((c.performed w i).state.context (some (w : Int)))⟩) = _
        rw [performed, hstopped.context_eq]
        rfl
      · exact (storedNext_of_decode hsame hdecode).trans hstored

/-! ### Stopped again -/

/-- The computer `c'` is as the next step of `c` leaves it, **and has that step before it once
more**. -/
structure Recurring (c c' : Computer) : Prop extends Stopped c c' c.storedNext where
  wellFormed : c'.WellFormed
  fetch_eq : c'.fetch = c.fetch
  storedNext_eq : c'.storedNext = c.storedNext

theorem Recurring.stepObstacle_eq (h : c.Recurring c') : c'.stepObstacle = c.stepObstacle := by
  rcases hfetch : c.fetch with error | w
  · simp only [stepObstacle, h.fetch_eq, hfetch]
  · rcases hdecode : decode w with - | i
    · simp only [stepObstacle, h.fetch_eq, hfetch, hdecode]
    · have hstored : c'.storedBy i = c.storedBy i := by
        rw [← storedNext_of_decode (h.fetch_eq.trans hfetch) hdecode,
          ← storedNext_of_decode hfetch hdecode, h.storedNext_eq]
      simp only [stepObstacle, h.fetch_eq, hfetch, hdecode]
      exact obstacle_congr h.sp_eq h.i_eq h.capacity_eq hstored

/-- A fault after which the word is still there recurs at once. -/
theorem recurring_step (hc : c.WellFormed) (h : c.stepObstacle = some cause)
    (hfetch : c.step.state.fetch = c.fetch) : c.Recurring c.step.state := by
  obtain ⟨-, hstopped, hstored⟩ := stopped_step hc h
  exact ⟨hstopped, hc.step.1, hfetch, hstored hfetch⟩

/-- **And a fault that has recurred will recur**: there is nothing left to be stored. -/
theorem Recurring.step (h : c.Recurring c') (hobstacle : c.stepObstacle = some cause) :
    c.Recurring c'.step.state := by
  obtain ⟨-, hstopped, hstored⟩ := stopped_step h.wellFormed (h.stepObstacle_eq.trans hobstacle)
  have hmemory : c'.step.state.memory = (c.memory.writeAll c.storedNext).1 := by
    rw [hstopped.memory_eq, h.storedNext_eq, h.memory_eq, Memory.writeAll_writeAll]
  have hfetch : c'.step.state.fetch = c'.fetch :=
    fetch_congr hstopped.pc_eq (hmemory.trans h.memory_eq.symm)
  exact
    { pc_eq := hstopped.pc_eq.trans h.pc_eq
      sp_eq := hstopped.sp_eq.trans h.sp_eq
      i_eq := hstopped.i_eq.trans h.i_eq
      memory_eq := hmemory
      wellFormed := h.wellFormed.step.1
      fetch_eq := hfetch.trans h.fetch_eq
      storedNext_eq := (hstored hfetch).trans h.storedNext_eq }

/-- It is the same fault, down to the place that it names. -/
theorem Recurring.halt_step (h : c.Recurring c') (hc : c.WellFormed)
    (hobstacle : c.stepObstacle = some cause) : c'.step.halt = c.step.halt := by
  obtain ⟨hhalt, -⟩ := stopped_step hc hobstacle
  obtain ⟨hhalt', -⟩ := stopped_step h.wellFormed (h.stepObstacle_eq.trans hobstacle)
  have hword : c'.nextWord = c.nextWord := by
    simp only [nextWord, h.fetch_eq]
  rw [hhalt, hhalt', hword, h.context_eq]

/-- Nothing but a reset gets the machine out of it, by induction on the requests. -/
theorem Recurring.after (h : c.Recurring c') (hobstacle : c.stepObstacle = some cause)
    {requests : List Request} (hreset : .reset ∉ requests) : c.Recurring (c'.after requests) := by
  refine after_preserves_of_no_reset (P := c.Recurring) ?_ ?_ ?_ ?_ hreset h
  · intro c' h
    exact h.step hobstacle
  · intro c' keypad h
    exact { h with wellFormed := ⟨h.wellFormed.registers, h.wellFormed.screen⟩ }
  · intro c' clock h
    exact { h with wellFormed := ⟨h.wellFormed.registers, h.wellFormed.screen⟩ }
  · intro c' sink h
    exact { h with wellFormed := ⟨h.wellFormed.registers, h.wellFormed.screen⟩ }

/-! ### What the state says -/

/-- A step does not forget a fault. -/
theorem isSome_lastFault_step (h : c.lastFault.isSome) : c.step.state.lastFault.isSome := by
  rcases hfetch : c.fetch with error | w
  · rw [step_of_fetch_error hfetch]
    rfl
  · rcases hdecode : decode w with - | i
    · rw [step_of_unknown hfetch hdecode]
      rfl
    · have hperformed : (c.performed w i).state.lastFault = c.lastFault :=
        (perform_leavesAlone (c.remembering w) w i).lastFault_eq
      rcases hhalt : (c.performed w i).halt with - | f | e
      · obtain ⟨registers, timer, clock, -, heq⟩ := (c.performed w i).state.exists_timed_eq
        rw [state_step_of_performed hfetch hdecode hhalt, heq]
        exact hperformed ▸ h
      · rw [step_of_stopped hfetch hdecode hhalt]
        rfl
      · rw [step_of_decode hfetch hdecode, settle_of_host hhalt]
        exact hperformed ▸ h

theorem status_eq_faulted (h : c.lastFault.isSome) : c.status = .faulted := if_pos h

/-- **Until the next reset the state says that the machine has faulted**, also where it has gone
on. -/
theorem isSome_lastFault_after (h : c.lastFault.isSome) {requests : List Request}
    (hreset : .reset ∉ requests) : (c.after requests).lastFault.isSome := by
  refine after_preserves_of_no_reset (P := fun c ↦ c.lastFault.isSome) ?_ ?_ ?_ ?_ hreset h
  · intro c h
    exact isSome_lastFault_step h
  · intro c keypad h
    exact h
  · intro c clock h
    exact h
  · intro c sink h
    exact h

/-- A step that faults puts its fault on record. -/
theorem lastFault_of_fault {f : Fault} (h : c.step.halt = some (.fault f)) :
    c.step.state.lastFault = some f := by
  rcases hfetch : c.fetch with error | w
  · rw [step_of_fetch_error hfetch] at h ⊢
    cases h
    rfl
  · rcases hdecode : decode w with - | i
    · rw [step_of_unknown hfetch hdecode] at h ⊢
      cases h
      rfl
    · rcases hhalt : (c.performed w i).halt with - | g | e
      · rw [step_of_performed hfetch hdecode hhalt, Outcome.andThen_of_none hhalt] at h
        -- Behind an instruction that was carried out only the clock halts a step.
        rcases (c.performed w i).state.halt_finishStep w with hdone | ⟨e, -, he⟩
        · exact nomatch hdone.symm.trans h
        · exact nomatch he.symm.trans h
      · rw [step_of_stopped hfetch hdecode hhalt] at h ⊢
        cases h
        rfl
      · rw [step_of_decode hfetch hdecode, settle_of_host hhalt, hhalt] at h
        exact nomatch h

/-! ### Where the word is lost -/

/-- A block of wrapped addresses lies in a memory that has all of them. -/
theorem obstacle_eq_none_of_large (hlarge : 65536 ≤ c.memory.capacity) (hret : i ≠ .ret)
    (hcall : ∀ target, i ≠ .call target) : c.obstacle i = none := by
  have hwrapped : ∀ z, c.memory.InBounds (wrap16 z) := fun z ↦
    ⟨wrap16_nonneg z, Int.lt_of_lt_of_le (wrap16_lt z) hlarge⟩
  have hloads : ∀ n, (c.memory.readAll (blockAddresses c.registers.i n)).2 = none := by
    intro n
    refine Memory.fault_readAll_eq_none fun a ha ↦ ?_
    obtain ⟨k, -, rfl⟩ := List.mem_map.1 ha
    exact hwrapped _
  have hstores : ∀ bytes, (c.memory.writeAll (blockAt c.registers.i bytes)).2 = none := by
    intro bytes
    refine Memory.fault_writeAll_eq_none fun entry hentry ↦ ?_
    obtain ⟨⟨byte, k⟩, -, rfl⟩ := List.mem_map.1 hentry
    exact hwrapped _
  cases i with
  | ret => exact absurd rfl hret
  | call target => exact absurd rfl (hcall target)
  | draw x y rows => exact hloads _
  | loadRegisters x => exact hloads _
  | storeDigits x => exact hstores _
  | storeRegisters x => exact hstores _
  | _ => rfl

/-- **So in such a memory nothing is ever half stored.** -/
theorem storedNext_of_large (hlarge : 65536 ≤ c.memory.capacity)
    (h : c.stepObstacle = some cause) : c.storedNext = [] := by
  rcases hfetch : c.fetch with error | w
  · simp only [storedNext, hfetch]
  · rcases hdecode : decode w with - | i
    · simp only [storedNext, hfetch, hdecode]
    · rw [storedNext_of_decode hfetch hdecode]
      simp only [stepObstacle, hfetch, hdecode] at h
      rcases i.ret_or_call with rfl | ⟨target, rfl⟩ | ⟨hret, hcall⟩
      · rfl
      · rfl
      · rw [obstacle_eq_none_of_large hlarge hret hcall] at h
        cases h

/-- A store that begins behind the word leaves the word alone. -/
theorem StoredToEnd.fetch_eq {bytes : List UInt8} (h : c.StoredToEnd c' bytes)
    (hpc : c'.registers.pc = c.registers.pc) (hbehind : c.registers.pc + 1 < c.registers.i) :
    c'.fetch = c.fetch := by
  rw [fetch, fetch, hpc, h.read_outside _ (Or.inl (by omega)),
    h.read_outside _ (Or.inl (by omega))]

/-- **The word is lost to one thing alone**: the step was to store digits or registers, from the
word or from before it to beyond the end of the memory. -/
theorem exists_store_of_fetch_ne (hc : c.WellFormed) {f : Fault}
    (h : c.step.halt = some (.fault f)) (hlost : c.step.state.fetch ≠ c.fetch) :
    ∃ w, c.fetch = .ok w ∧ w / 0x1000 = 0xF ∧ (w % 0x100 = 0x33 ∨ w % 0x100 = 0x55) ∧
      c.registers.i ≤ c.registers.pc + 1 := by
  have hobstacle : c.stepObstacle = some f.cause :=
    (halt_step_eq_fault_iff hc f.cause).1 ⟨f.context, h⟩
  obtain ⟨-, hstopped, -⟩ := stopped_step hc hobstacle
  have hpc := hstopped.pc_eq
  have hkept : c.step.state.memory ≠ c.memory := fun hsame ↦ hlost (fetch_congr hpc hsame)
  have hreach : ∀ bytes, c.StoredToEnd c.step.state bytes → c.registers.i ≤ c.registers.pc + 1 :=
    fun bytes hstored ↦ Int.not_lt.1 fun hbehind ↦ hlost (hstored.fetch_eq hpc hbehind)
  by_cases hsmall : c.memory.capacity ≤ 0xFFFF
  · obtain ⟨-, ⟨-, -, hnothing⟩ | ⟨w, hfetch, -, hwork⟩⟩ := aftermath_of_fault hc hsmall h
    · exact absurd hnothing.memory_eq hkept
    · rcases hwork with ⟨-, hnothing⟩ | ⟨hw, hlow, hstored⟩ | ⟨hw, hlow, hstored⟩ |
        ⟨-, -, hloaded⟩ | ⟨-, hdrawn⟩
      · exact absurd hnothing.memory_eq hkept
      · exact ⟨w, hfetch, hw, Or.inl hlow, hreach _ hstored⟩
      · exact ⟨w, hfetch, hw, Or.inr hlow, hreach _ hstored⟩
      · exact absurd hloaded.memory_eq hkept
      · exact absurd hdrawn.memory_eq hkept
  · have hnone : c.storedNext = [] := storedNext_of_large (by omega) hobstacle
    rw [hnone] at hstopped
    exact absurd hstopped.memory_eq hkept

/-! ### Faults of reached computers -/

/-- **A fault recurs, unless it has lost its word.** The fault of a reached computer names the place
where the step began. From then on until the next reset the state says that the machine has faulted,
whatever is asked of it. If the word of the step is still there after it, every later step faults in
the same way, at the same place. And if it is not, the step was to store digits or registers over
itself, beyond the end of the memory. -/
theorem fault_recurs (h : c.Reached) {f : Fault} (hfault : c.step.halt = some (.fault f)) :
    f.context = some (c.context c.nextWord) ∧
      (∀ requests, .reset ∉ requests → (c.step.state.after requests).status = .faulted) ∧
      (c.step.state.fetch = c.fetch → ∀ requests, .reset ∉ requests →
        (c.step.state.after requests).step.halt = some (.fault f)) ∧
      (c.step.state.fetch ≠ c.fetch → ∃ w, c.fetch = .ok w ∧ w / 0x1000 = 0xF ∧
        (w % 0x100 = 0x33 ∨ w % 0x100 = 0x55) ∧ c.registers.i ≤ c.registers.pc + 1) := by
  have hc := h.wellFormed
  have hobstacle : c.stepObstacle = some f.cause :=
    (halt_step_eq_fault_iff hc f.cause).1 ⟨f.context, hfault⟩
  have hrecorded : c.step.state.lastFault.isSome := by
    rw [lastFault_of_fault hfault]
    rfl
  refine ⟨?_, fun requests hreset ↦ ?_, fun hfetch requests hreset ↦ ?_, fun hlost ↦ ?_⟩
  · obtain ⟨hhalt, -⟩ := stopped_step hc hobstacle
    obtain ⟨cause, place⟩ := f
    cases hfault.symm.trans hhalt
    rfl
  · exact status_eq_faulted (isSome_lastFault_after hrecorded hreset)
  · have hrecurs := (recurring_step hc hobstacle hfetch).after hobstacle hreset
    exact (hrecurs.halt_step hc hobstacle).trans hfault
  · exact exists_store_of_fetch_ne hc hfault hlost

/-- A memory with a program that stores three registers behind itself, where there is room for
two. -/
def overrunning : Memory :=
  ((Memory.blank 0x208).load 0x200 [0x60, 0x12, 0xA2, 0x06, 0xF2, 0x55]).1

/-- Neither a key nor a frame nor the clock gets it over the third store. -/
theorem fault_recurs_overrunning :
    ∃ (c : Computer) (f : Fault), c.Reached ∧ c.step.halt = some (.fault f) ∧
      c.step.state.fetch = c.fetch ∧
      (c.step.state.after [.press 3, .frame, .moveClock 50000, .step]).step.halt =
        some (.fault f) := by
  have hreached : ((starting overrunning).after [.step, .step]).Reached :=
    (reached_starting (by decide)).after (by decide)
  obtain ⟨hfault, hfetch⟩ :
      ((starting overrunning).after [.step, .step]).step.halt =
          some (.fault ⟨.outOfBounds 0x208 0x208, some ⟨0x204, 0, 0x206, some 0xF255⟩⟩) ∧
        ((starting overrunning).after [.step, .step]).step.state.fetch =
          ((starting overrunning).after [.step, .step]).fetch := by
    decide +kernel
  obtain ⟨-, -, hrecurs, -⟩ := fault_recurs hreached hfault
  exact ⟨_, _, hreached, hfault, hfetch, hrecurs hfetch _ (by decide)⟩

/-- A memory that ends behind a program of three words. The last one is a store of three registers
to its own place, with a jump to the beginning in the first two. -/
def overwriting : Memory :=
  ((Memory.blank 0x206).load 0x200 [0x60, 0x12, 0xA2, 0x04, 0xF2, 0x55]).1

/-- **A fault that has lost its word need not recur.** The third step of the program stores the jump
over its own word and faults behind it; the fourth one jumps. -/
theorem not_fault_recurs :
    ¬ ∀ (c : Computer) (f : Fault), c.Reached → c.step.halt = some (.fault f) →
      ∀ requests, .reset ∉ requests → ∃ f', (c.step.state.after requests).step.halt =
        some (.fault f') ∧ f'.context.map (·.pc) = f.context.map (·.pc) := by
  intro hrecurs
  have hreached : ((starting overwriting).after [.step, .step]).Reached :=
    (reached_starting (by decide)).after (by decide)
  obtain ⟨hfault, hcompletes⟩ :
      ((starting overwriting).after [.step, .step]).step.halt =
          some (.fault ⟨.outOfBounds 0x206 0x206, some ⟨0x204, 0, 0x204, some 0xF255⟩⟩) ∧
        ((starting overwriting).after [.step, .step]).step.state.step.halt = none := by
    decide +kernel
  obtain ⟨f', hfault', -⟩ := hrecurs _ _ hreached hfault [] (by decide)
  cases hcompletes.symm.trans hfault'

end Computer

end ChipEight
