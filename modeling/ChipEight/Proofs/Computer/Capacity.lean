import ChipEight.Proofs.Computer.Restart
import ChipEight.Proofs.Memory.Extension
import ChipEight.Proofs.Screen.Drawing
import Mathlib.Data.List.Forall2

/-!
# What a program can learn of the capacity

**A check of an address can only ever be a fault.** A computer that is not stopped by one runs the
same with more memory behind the end of its own, and leaves that alone (`serve_enlarged`): every
address that it uses is one of its own, the sixteen bits of an address do not hang on the capacity,
and nothing else looks at it.

`mirrors_served` is the statement for two memories that share their lower bytes. Nothing is asked of
the two computers but that they agree in all the rest: they need not keep to their ranges, and the
smaller one may have no bytes at all.
-/

namespace ChipEight.Computer

open Instruction

variable {c : Computer} {w : Nat} {i : Instruction} {o : Outcome Halt Computer}

/-- The computer with the bytes of another memory behind its own. -/
def enlarged (base : Memory) (c : Computer) : Computer := c.change (·.extendedBy base) id

theorem enlarged_eq (base : Memory) (c : Computer) :
    c.enlarged base = { c with memory := c.memory.extendedBy base } := rfl

/-! ### Instructions -/

theorem eq_none_of_fault?_goOn {cause : Option Fault.Cause} (h : (c.goOn cause).fault? = none) :
    cause = none := by
  cases cause with
  | none => rfl
  | some cause => cases h

/-- A drawing on a screen that refuses the rows that were read. -/
theorem doDraw_eq_refused {x y : Reg} {rows : Fin 16} {e : HostError}
    (h : c.screen.plotAll
      (c.spriteAt x y (c.memory.readAll (blockAddresses c.registers.i rows)).1) = .error e) :
    c.doDraw x y rows = .refused (c.setFlag false) e := by
  simp only [spriteAt, blockAddresses] at h
  simp only [doDraw, h]

/-- **A drawing is kept from its fault by the screen alone**, if it refuses the rows in front of the
address that faults. -/
theorem exists_refusal_of_doDraw {x y : Reg} {rows : Fin 16} {cause : Fault.Cause}
    (hcause : (c.memory.readAll (blockAddresses c.registers.i rows)).2 = some cause)
    (h : (c.doDraw x y rows).fault? = none) :
    ∃ e, c.screen.plotAll
      (c.spriteAt x y (c.memory.readAll (blockAddresses c.registers.i rows)).1) = .error e := by
  cases hplot : c.screen.plotAll
      (c.spriteAt x y (c.memory.readAll (blockAddresses c.registers.i rows)).1) with
  | error e => exact ⟨e, rfl⟩
  | ok drawn =>
    simp only [spriteAt, blockAddresses] at hcause hplot
    simp only [doDraw, hcause, hplot] at h
    cases h

theorem doDraw_enlarged (base : Memory) {x y : Reg} {rows : Fin 16}
    (h : (c.doDraw x y rows).fault? = none) :
    (c.enlarged base).doDraw x y rows = (c.doDraw x y rows).onState (enlarged base) := by
  cases hcause : (c.memory.readAll (blockAddresses c.registers.i rows)).2 with
  | none => exact c.doDraw_change x y (Memory.readAll_extendedBy hcause base)
  | some cause =>
    -- The larger memory may have more rows, but the screen refuses the longer sprite as well.
    obtain ⟨e, he⟩ := exists_refusal_of_doDraw hcause h
    obtain ⟨more, hmore⟩ :=
      Memory.exists_readAll_extendedBy c.memory base (blockAddresses c.registers.i rows)
    have hlonger : c.screen.plotAll (c.spriteAt x y
        ((c.memory.extendedBy base).readAll (blockAddresses c.registers.i rows)).1) = .error e := by
      rw [hmore, spriteAt, Screen.spritePoints_append]
      exact Screen.plotAll_append_eq_error he _
    rw [doDraw_eq_refused he, doDraw_eq_refused (c := c.enlarged base) hlonger]
    rfl

theorem afterStore_enlarged (base : Memory) {run : List (Int × UInt8)}
    (h : (c.afterStore (c.memory.writeAll run)).fault? = none) :
    (c.enlarged base).afterStore ((c.memory.extendedBy base).writeAll run) =
      (c.afterStore (c.memory.writeAll run)).onState (enlarged base) := by
  rw [afterStore_eq_goOn] at h
  rw [Memory.writeAll_extendedBy (eq_none_of_fault?_goOn h)]
  exact c.afterStore_change _

theorem doLoadRegisters_enlarged (base : Memory) {x : Reg}
    (h : (c.doLoadRegisters x).fault? = none) :
    (c.enlarged base).doLoadRegisters x = (c.doLoadRegisters x).onState (enlarged base) := by
  rw [doLoadRegisters_eq_goOn] at h
  exact c.doLoadRegisters_change (Memory.readAll_extendedBy (eq_none_of_fault?_goOn h) base)

/-- **An instruction that does not fault never reaches the base**, and does the same. -/
theorem perform_enlarged (base : Memory) {opcode : Int}
    (h : (c.perform opcode i).fault? = none) :
    (c.enlarged base).perform opcode i = (c.perform opcode i).onState (enlarged base) := by
  cases i with
  | draw x y rows => exact doDraw_enlarged base h
  | getDelay x =>
    have hdelay : (c.enlarged base).registers.delay = c.registers.delay := rfl
    simp only [perform, doGetDelay, hdelay]
    cases Registers.byte? c.registers.delay with
    | none => rfl
    | some b => rfl
  | setDelay x => rfl
  | setSound x => rfl
  | storeDigits x => exact afterStore_enlarged base h
  | storeRegisters x => exact afterStore_enlarged base h
  | loadRegisters x => exact doLoadRegisters_enlarged base h
  | _ => exact perform_change _ _ rfl

/-! ### Steps -/

theorem fetch_enlarged (base : Memory) (h : c.fetch = .ok w) :
    (c.enlarged base).fetch = .ok w := by
  obtain ⟨h0, hlt, -⟩ := fetch_eq_ok h
  have hhigh : c.memory.InBounds c.registers.pc := ⟨h0, by omega⟩
  have hlow : c.memory.InBounds (c.registers.pc + 1) := ⟨by omega, hlt⟩
  rw [← h, fetch, fetch]
  show (do
    let high ← (c.memory.extendedBy base).read c.registers.pc
    let low ← (c.memory.extendedBy base).read (c.registers.pc + 1)
    return high.toNat * 256 + low.toNat : Except Fault.Cause Nat) = _
  rw [Memory.read_extendedBy hhigh, Memory.read_extendedBy hlow]

theorem finishStep_enlarged (base : Memory) (c : Computer) (opcode : Int) :
    (c.enlarged base).finishStep opcode = (c.finishStep opcode).onState (enlarged base) :=
  finishStep_onState rfl rfl rfl opcode

/-- **The end of a step does not look at the memory.** -/
theorem settle_enlarged (base : Memory) (o : Outcome Halt Computer) :
    settle w (o.onState (enlarged base)) = (settle w o).onState (enlarged base) :=
  settle_onState (fun c ↦ finishStep_enlarged base c w) (fun _ _ _ ↦ rfl) o

theorem fault?_of_settle (h : (settle w o).fault? = none) : o.fault? = none := by
  cases hhalt : o.halt with
  | none => exact Outcome.fault?_of_halt_eq_none hhalt
  | some halt =>
    cases halt with
    | fault f =>
      rw [settle_of_fault hhalt] at h
      cases h
    | host e => rwa [settle_of_host hhalt] at h

/-- **A step that does not fault never reaches the base**, and is the same step. -/
theorem step_enlarged (base : Memory) (h : c.step.fault? = none) :
    (c.enlarged base).step = c.step.onState (enlarged base) := by
  cases hfetch : c.fetch with
  | error cause =>
    rw [step_of_fetch_error hfetch] at h
    cases h
  | ok w =>
    cases hdecode : decode w with
    | none =>
      rw [step_of_unknown hfetch hdecode] at h
      cases h
    | some i =>
      rw [step_of_decode hfetch hdecode] at h
      have hperformed := fault?_of_settle h
      rw [step_of_decode hfetch hdecode, step_of_decode (fetch_enlarged base hfetch) hdecode,
        ← settle_enlarged base]
      exact congrArg (settle w) (perform_enlarged base hperformed)

theorem steps_enlarged (base : Memory) (n : Nat) (h : (steps n c).fault? = none) :
    steps n (c.enlarged base) = (steps n c).onState (enlarged base) := by
  induction n generalizing c with
  | zero => rfl
  | succ n ih =>
    rw [steps] at h
    rw [steps, steps, step_enlarged base (Outcome.fault?_of_andThen h)]
    refine Outcome.onState_andThen fun hdone ↦ ih ?_
    rwa [Outcome.fault?_andThen hdone] at h

/-! ### Histories -/

/-- **A reset with room for the font leaves alone what is behind it.** -/
theorem reset_enlarged (base : Memory) (h : c.reset.fault? = none) :
    (c.enlarged base).reset = c.reset.onState (enlarged base) := by
  cases hfont : (c.memory.load Font.start Font.sprites).2 with
  | some cause =>
    simp only [reset, hfont] at h
    cases h
  | none =>
    have hload := Memory.load_extendedBy hfont base
    have hmemory : (c.enlarged base).memory = c.memory.extendedBy base := rfl
    have hclock : (c.enlarged base).clock = c.clock := rfl
    simp only [reset, hmemory, hload, hfont, hclock]
    cases c.clock.now with
    | error e => rfl
    | ok now => rfl

/-- **Requests that do not fault are served alike with more memory**, which is left alone. -/
theorem serve_enlarged (base : Memory) {request : Request}
    (h : (c.serve request).fault? = none) :
    (c.enlarged base).serve request = (c.serve request).onState (enlarged base) := by
  have hpad : ∀ pad,
      (c.enlarged base).withKeypad pad = (c.withKeypad pad).onState (enlarged base) := by
    intro pad
    cases pad with
    | ok keypad => rfl
    | error e => rfl
  cases request with
  | step => exact step_enlarged base h
  | frame => exact steps_enlarged base _ h
  | reset => exact reset_enlarged base h
  | press code => exact hpad _
  | release code => exact hpad _
  | moveClock d => rfl
  | setSink sink => rfl

theorem served_enlarged (base : Memory) {requests : List Request}
    (h : ∀ o ∈ c.served requests, o.fault? = none) :
    (c.enlarged base).served requests =
      (c.served requests).map (·.onState (enlarged base)) := by
  induction requests generalizing c with
  | nil => rfl
  | cons request rest ih =>
    rw [served, List.forall_mem_cons] at h
    obtain ⟨hfirst, hrest⟩ := h
    rw [served, served, List.map_cons, serve_enlarged base hfirst, Outcome.state_onState, ih hrest]

/-! ### Capacities -/

/-- No request of a history changes the capacity of the memory. -/
theorem capacity_served {requests : List Request} (h : o ∈ c.served requests) :
    o.state.memory.capacity = c.memory.capacity := by
  induction requests generalizing c with
  | nil => cases h
  | cons request rest ih =>
    rcases List.mem_cons.1 h with rfl | hrest
    · exact c.capacity_after [request]
    · exact (ih hrest).trans (c.capacity_after [request])

/-! ### Two computers -/

/-- What the operation `o` did over a memory of the given capacity, `o'` did over a longer one, and
behind the end of the shorter one it left everything as it is in `base`. -/
structure Mirrors (capacity : Int) (base : Memory) (o o' : Outcome Halt Computer) : Prop where
  halt_eq : o'.halt = o.halt
  /-- The same was sent, to the sink and as notices. -/
  signals_eq : o'.signals = o.signals
  /-- Only the memories may differ. -/
  state_eq : o'.state = { o.state with memory := o'.state.memory }
  capacity_eq : o'.state.memory.capacity = base.capacity
  read_below : ∀ a, 0 ≤ a → a < capacity → o'.state.memory.read a = o.state.memory.read a
  read_above : ∀ a, capacity ≤ a → o'.state.memory.read a = base.read a

theorem mirrors_onState {base : Memory} (h : o.state.memory.capacity ≤ base.capacity) :
    Mirrors o.state.memory.capacity base o (o.onState (enlarged base)) where
  halt_eq := rfl
  signals_eq := rfl
  state_eq := rfl
  capacity_eq := Int.max_eq_right h
  read_below := fun _ h0 hlt ↦ Memory.read_extendedBy ⟨h0, hlt⟩ base
  read_above := fun _ hle ↦ Memory.read_extendedBy_of_le h hle

/-- **With more memory there are no more faults, and nothing else changes.** Two computers agree in
everything but their memories, and these agree below the smaller capacity. What the one with the
smaller memory is asked to do, in any order, it does without a fault. Then the other one does it
without a fault; behind each request the two agree as they did before, and they have sent the same.
**The bytes that only the larger memory has stay as they were.** -/
theorem mirrors_served {larger : Memory} {requests : List Request}
    (hcap : c.memory.capacity ≤ larger.capacity)
    (hsame : ∀ a, c.memory.InBounds a → larger.read a = c.memory.read a)
    (hfaultless : ∀ o ∈ c.served requests, o.fault? = none) :
    (∀ o' ∈ { c with memory := larger }.served requests, o'.fault? = none) ∧
      List.Forall₂ (Mirrors c.memory.capacity larger) (c.served requests)
        ({ c with memory := larger }.served requests) := by
  have hlarger : { c with memory := larger } = c.enlarged larger := by
    rw [enlarged_eq, Memory.extendedBy_eq_base hcap hsame]
  rw [hlarger, served_enlarged larger hfaultless]
  constructor
  · intro o' ho'
    obtain ⟨o, ho, rfl⟩ := List.mem_map.1 ho'
    exact hfaultless o ho
  · rw [List.forall₂_map_right_iff, List.forall₂_same]
    intro o ho
    have hkept := capacity_served ho
    rw [← hkept] at hcap ⊢
    exact mirrors_onState hcap

/-- A memory with a program that puts a jump to its own beginning into the last two bytes. -/
def looping : Memory :=
  ((Memory.blank 0x20A).load 0x200 [0x60, 0x12, 0xA2, 0x08, 0xF1, 0x55, 0x12, 0x08]).1

/-- Six bytes more, two of them set, are nothing to the program. -/
theorem mirrors_served_looping :
    let c := plain (.initial 0x200) looping
    let larger := looping.extendedBy ((Memory.blank 0x210).load 0x20A [0xFF, 0xEE]).1
    let requests : List Request :=
      [.press 3, .step, .step, .step, .moveClock 5, .step, .step, .reset]
    c.memory.capacity ≤ larger.capacity ∧ (∀ o ∈ c.served requests, o.fault? = none) ∧
      (∀ o' ∈ { c with memory := larger }.served requests, o'.fault? = none) ∧
      List.Forall₂ (Mirrors 0x20A larger) (c.served requests)
        ({ c with memory := larger }.served requests) := by
  intro c larger requests
  have hcap : c.memory.capacity ≤ larger.capacity := by decide +kernel
  have hfaultless : ∀ o ∈ c.served requests, o.fault? = none := by decide +kernel
  exact ⟨hcap, hfaultless, mirrors_served hcap (fun a ha ↦ Memory.read_extendedBy ha _) hfaultless⟩

end ChipEight.Computer
