import ChipEight.Proofs.Computer.Faults

/-!
# What a faulting step leaves behind

A step that faults has touched **nothing but the byte registers, the memory and the screen**, and of
these only what its instruction had done by then. Four instructions can be stopped half-way, all of
them by the end of the memory: `StoredToEnd`, `LoadedToEnd` and `DrawnToEnd` say what they have
done, which is the part of their work that lies between `I` and the end. Everything else that faults
has done nothing at all.

`aftermath_of_fault` puts this together with what is seen from outside: the one notice that is sent,
the place that the fault names, and a clock that was not asked.
-/

namespace ChipEight.Computer

open Instruction

variable {c c' : Computer} {w : Nat} {i : Instruction} {cause : Fault.Cause}

/-! ### Unfinished work -/

/-- The computer with other byte registers, another memory and another screen. -/
def withData (c : Computer) (v : Vector UInt8 16) (memory : Memory) (screen : Screen) : Computer :=
  { c with
    registers := { c.registers with v := v }
    memory := memory
    screen := screen }

@[simp] theorem v_withData (c : Computer) (v : Vector UInt8 16) (memory : Memory)
    (screen : Screen) : (c.withData v memory screen).registers.v = v := rfl

@[simp] theorem memory_withData (c : Computer) (v : Vector UInt8 16) (memory : Memory)
    (screen : Screen) : (c.withData v memory screen).memory = memory := rfl

@[simp] theorem screen_withData (c : Computer) (v : Vector UInt8 16) (memory : Memory)
    (screen : Screen) : (c.withData v memory screen).screen = screen := rfl

/-- Nothing was done. -/
structure NothingDone (c c' : Computer) : Prop where
  v_eq : c'.registers.v = c.registers.v
  memory_eq : c'.memory = c.memory
  screen_eq : c'.screen = c.screen

/-- Of the bytes to be stored from `I` on, those that have an address were stored. -/
structure StoredToEnd (c c' : Computer) (bytes : List UInt8) : Prop where
  v_eq : c'.registers.v = c.registers.v
  screen_eq : c'.screen = c.screen
  capacity_eq : c'.memory.capacity = c.memory.capacity
  exceeds : c.memory.capacity < c.registers.i + bytes.length
  read_inside : ∀ k (hk : k < bytes.length), c.registers.i + k < c.memory.capacity →
    c'.memory.read (c.registers.i + k) = .ok bytes[k]
  read_outside : ∀ a, a < c.registers.i ∨ c.memory.capacity ≤ a →
    c'.memory.read a = c.memory.read a

/-- Of the registers to be loaded, those were loaded that have an address, counted from `I` on. -/
structure LoadedToEnd (c c' : Computer) : Prop where
  memory_eq : c'.memory = c.memory
  screen_eq : c'.screen = c.screen
  v_inside : ∀ k : Reg, c.registers.i + k.val < c.memory.capacity →
    c.memory.read (c.registers.i + k.val) = .ok (c'.v k)
  v_outside : ∀ k : Reg, c.memory.capacity ≤ c.registers.i + k.val → c'.v k = c.v k

/-- The rows of the sprite that have an address were drawn, and the flag register tells of their
collision alone. -/
structure DrawnToEnd (c c' : Computer) (x y : Reg) (rows : List UInt8) (collision : Bool) :
    Prop where
  memory_eq : c'.memory = c.memory
  length_eq : rows.length = (c.memory.capacity - c.registers.i).toNat
  read_eq : ∀ k (hk : k < rows.length), c.memory.read (c.registers.i + k) = .ok rows[k]
  turnsOver : c.screen.TurnsOver (c.spriteAt x y rows) c'.screen collision
  flag_eq : c'.v flagReg = if collision then 1 else 0
  flag_of_le : c.memory.capacity ≤ c.registers.i → c'.v flagReg = 0
  v_eq : ∀ k, k ≠ flagReg → c'.v k = c.v k

/-- What was done of a word that was stopped. -/
inductive Unfinished (c c' : Computer) (w : Nat) : Prop
  | nothing : wordSpan w = 0 → c.NothingDone c' → Unfinished c c' w
  | digits : w / 0x1000 = 0xF → w % 0x100 = 0x33 → c.StoredToEnd c' (digits (c.v (regX w))) →
      Unfinished c c' w
  | registers : w / 0x1000 = 0xF → w % 0x100 = 0x55 →
      c.StoredToEnd c' (c.firstRegisters (regX w)) → Unfinished c c' w
  | load : w / 0x1000 = 0xF → w % 0x100 = 0x65 → c.LoadedToEnd c' → Unfinished c c' w
  | draw {rows : List UInt8} {collision : Bool} : w / 0x1000 = 0xD →
      c.DrawnToEnd c' (regX w) (regY w) rows collision → Unfinished c c' w

theorem NothingDone.refl (c : Computer) : c.NothingDone c := ⟨rfl, rfl, rfl⟩

theorem Unfinished.capacity_eq (h : c.Unfinished c' w) :
    c'.memory.capacity = c.memory.capacity := by
  cases h with
  | nothing _ h => rw [h.memory_eq]
  | digits _ _ h => exact h.capacity_eq
  | registers _ _ h => exact h.capacity_eq
  | load _ _ h => rw [h.memory_eq]
  | draw _ h => rw [h.memory_eq]

theorem Unfinished.sides_eq (h : c.Unfinished c' w) :
    c'.screen.width = c.screen.width ∧ c'.screen.height = c.screen.height := by
  cases h with
  | nothing _ h => rw [h.screen_eq]; exact ⟨rfl, rfl⟩
  | digits _ _ h => rw [h.screen_eq]; exact ⟨rfl, rfl⟩
  | registers _ _ h => rw [h.screen_eq]; exact ⟨rfl, rfl⟩
  | load _ _ h => rw [h.screen_eq]; exact ⟨rfl, rfl⟩
  | draw _ h => exact ⟨h.turnsOver.width_eq, h.turnsOver.height_eq⟩

/-- The last word and the last fault have no part in it. -/
theorem Unfinished.of_remembering {fault : Option Fault} (h : (c.remembering w).Unfinished c' w) :
    c.Unfinished { c' with lastFault := fault } w := by
  cases h with
  | nothing hw h => exact .nothing hw ⟨h.v_eq, h.memory_eq, h.screen_eq⟩
  | digits hw hlow h =>
    exact .digits hw hlow
      ⟨h.v_eq, h.screen_eq, h.capacity_eq, h.exceeds, h.read_inside, h.read_outside⟩
  | registers hw hlow h =>
    exact .registers hw hlow
      ⟨h.v_eq, h.screen_eq, h.capacity_eq, h.exceeds, h.read_inside, h.read_outside⟩
  | load hw hlow h => exact .load hw hlow ⟨h.memory_eq, h.screen_eq, h.v_inside, h.v_outside⟩
  | draw hw h =>
    exact .draw hw
      ⟨h.memory_eq, h.length_eq, h.read_eq, h.turnsOver, h.flag_eq, h.flag_of_le, h.v_eq⟩

/-! ### Stopped instructions -/

theorem storedToEnd (hc : c.WellFormed) (hsmall : c.memory.capacity < 65536) (bytes : List UInt8)
    (hover : c.memory.capacity < c.registers.i + bytes.length) :
    c.StoredToEnd
      (c.withData c.registers.v (c.memory.writeAll (blockAt c.registers.i bytes)).1 c.screen)
      bytes := by
  have h0 := hc.registers.i_nonneg
  have hlt := hc.registers.i_lt
  rw [Memory.writeAll_blockAt hsmall h0 hlt]
  refine ⟨v_withData _ _ _ _, screen_withData _ _ _ _, Memory.capacity_load _ _ _, hover,
    fun k hk hin ↦ ?_, fun a ha ↦ ?_⟩
  · exact Memory.read_load_inside h0 hk hin
  · refine Memory.read_load_outside ?_
    rcases ha with hbelow | hbeyond
    · exact Or.inl hbelow
    · exact Or.inr (Or.inr hbeyond)

theorem loadedToEnd (hc : c.WellFormed) (hsmall : c.memory.capacity < 65536) {n : Nat}
    (hover : c.memory.capacity < c.registers.i + n) :
    c.LoadedToEnd
      (c.withData
        (c.registers.setFirst (c.memory.readAll (blockAddresses c.registers.i n)).1).v c.memory
        c.screen) := by
  have h0 := hc.registers.i_nonneg
  have hlt := hc.registers.i_lt
  have hlength := Memory.length_readAll_blockAddresses hsmall h0 hlt n
  refine ⟨memory_withData _ _ _ _, screen_withData _ _ _ _, fun k hin ↦ ?_, fun k hout ↦ ?_⟩
  · -- The bytes that were read are as many as there are addresses, so this one is among them.
    have hk : k.val < (c.memory.readAll (blockAddresses c.registers.i n)).1.length := by omega
    show c.memory.read _ = .ok ((c.registers.setFirst _).v.get k)
    rw [Registers.v_setFirst, List.getD_eq_getElem?_getD, List.getElem?_eq_getElem hk,
      Option.getD_some]
    exact Memory.read_of_readAll_blockAddresses hsmall h0 hlt (List.getElem?_eq_getElem hk)
  · show (c.registers.setFirst _).v.get k = c.registers.v.get k
    rw [Registers.v_setFirst, List.getD_eq_getElem?_getD, List.getElem?_eq_none (by omega),
      Option.getD_none]

theorem drawnToEnd (hc : c.WellFormed) (hsmall : c.memory.capacity < 65536) {n : Nat}
    (hover : c.memory.capacity < c.registers.i + n) {x y : Reg} {screen : Screen}
    {collision : Bool}
    (hturns : c.screen.TurnsOver
      (c.spriteAt x y (c.memory.readAll (blockAddresses c.registers.i n)).1) screen collision) :
    c.DrawnToEnd (c.drawn screen collision) x y
      (c.memory.readAll (blockAddresses c.registers.i n)).1 collision := by
  have h0 := hc.registers.i_nonneg
  have hlt := hc.registers.i_lt
  have hlength := Memory.length_readAll_blockAddresses hsmall h0 hlt n
  have hflag : (c.drawn screen collision).v flagReg = if collision then 1 else 0 := by
    show (c.registers.setV flagReg _).v.get flagReg = _
    rw [Registers.v_setV, if_pos rfl]
  refine ⟨rfl, by omega, fun k hk ↦ ?_, hturns, hflag, fun hle ↦ ?_, fun k hk ↦ ?_⟩
  · exact Memory.read_of_readAll_blockAddresses hsmall h0 hlt (List.getElem?_eq_getElem hk)
  · -- No row was read, so no point was turned over and none can have been lit.
    have hnil : (c.memory.readAll (blockAddresses c.registers.i n)).1 = [] :=
      List.length_eq_zero_iff.1 (by omega)
    have hdark : collision = false := by
      refine Bool.eq_false_iff.2 fun hlit ↦ ?_
      obtain ⟨before, p, after, hpoints, -⟩ := hturns.collision_iff.1 hlit
      rw [hnil] at hpoints
      exact absurd hpoints.symm (by simp [spriteAt, Screen.spritePoints])
    rw [hflag, hdark]
    rfl
  · show (c.registers.setV flagReg _).v.get k = c.registers.v.get k
    rw [Registers.v_setV, if_neg fun heq ↦ hk heq.symm]

/-- **A stopped instruction changes data alone**, sends nothing, and has done its work up to the end
of the memory. -/
theorem exists_perform_eq_faulted (hc : c.WellFormed) (hsmall : c.memory.capacity < 65536)
    (hi : StandsFor w i) (h : c.obstacle i = some cause) (opcode : Int) :
    ∃ v memory screen, c.perform opcode i = .faulted (c.withData v memory screen) cause ∧
      c.Unfinished (c.withData v memory screen) w := by
  have hspan := span_eq_wordSpan hi
  have hover (hret : i ≠ .ret) (hcall : ∀ target, i ≠ .call target) :
      c.memory.capacity < c.registers.i + i.span :=
    (block_of_obstacle hc hsmall h hret hcall).2.1
  cases hi with
  | ret =>
    obtain ⟨hsp, heq⟩ := Option.ite_none_right_eq_some.1 h
    cases heq
    exact ⟨c.registers.v, c.memory, c.screen, doReturn_eq_faulted hsp,
      .nothing hspan.symm (.refl c)⟩
  | call =>
    obtain ⟨hsp, heq⟩ := Option.ite_none_right_eq_some.1 h
    cases heq
    exact ⟨c.registers.v, c.memory, c.screen, doCall_eq_faulted hsp _,
      .nothing hspan.symm (.refl c)⟩
  | draw hw =>
    obtain ⟨screen, collision, hturns, heq⟩ :=
      exists_doDraw_eq hc.screen (regX w) (regY w) (lastDigit w)
    have hpart := drawnToEnd hc hsmall (hover (by simp) (by simp)) hturns
    refine ⟨(c.drawn screen collision).registers.v, c.memory, screen, ?_, .draw hw hpart⟩
    rw [perform, heq, show (c.memory.readAll _).2 = some cause from h]
    rfl
  | storeDigits hw hlow =>
    have hpart := storedToEnd hc hsmall (digits (c.v (regX w))) (hover (by simp) (by simp))
    refine ⟨c.registers.v, _, c.screen, ?_, .digits hw hlow hpart⟩
    rw [perform, doStoreDigits_eq_goOn hc.registers,
      show (c.memory.writeAll _).2 = some cause from h]
    rfl
  | storeRegisters hw hlow =>
    have hpart := storedToEnd hc hsmall (c.firstRegisters (regX w))
      (by rw [length_firstRegisters]; exact hover (by simp) (by simp))
    refine ⟨c.registers.v, _, c.screen, ?_, .registers hw hlow hpart⟩
    rw [perform, doStoreRegisters_eq_goOn, show (c.memory.writeAll _).2 = some cause from h]
    rfl
  | loadRegisters hw hlow =>
    have hpart := loadedToEnd hc hsmall (hover (by simp) (by simp))
    refine ⟨_, c.memory, c.screen, ?_, .load hw hlow hpart⟩
    rw [perform, doLoadRegisters_eq_goOn, show (c.memory.readAll _).2 = some cause from h]
    rfl
  -- No other instruction has an obstacle.
  | _ => cases h

/-! ### Faulting steps -/

/-- What a faulting step has left as it was, and the place that its fault names. The word is missing
if it was not fetched. -/
structure Aftermath (c : Computer) (f : Fault) (word : Option Nat) (c' : Computer) : Prop where
  /-- Besides data, only the last word and the last fault are others. -/
  frame : ∃ v memory screen, c' =
    { c.withData v memory screen with
      lastOpcode := (word.map fun w ↦ (w : Int)).getD c.lastOpcode
      lastFault := some f }
  context_eq : f.context =
    some ⟨c.registers.pc, c.registers.sp, c.registers.i, word.map fun w ↦ (w : Int)⟩
  capacity_eq : c'.memory.capacity = c.memory.capacity
  width_eq : c'.screen.width = c.screen.width
  height_eq : c'.screen.height = c.screen.height

/-- What a fault on record says of a step whose instruction changed data alone. -/
theorem aftermath_of_recordFault {v : Vector UInt8 16} {memory : Memory} {screen : Screen}
    (hwork : (c.remembering w).Unfinished ((c.remembering w).withData v memory screen) w) :
    let o := ((c.remembering w).withData v memory screen).recordFault cause (some (w : Int))
    ∀ f, o.halt = some (.fault f) →
      o.signals = [.notice (.faulted f)] ∧ c.Aftermath f (some w) o.state ∧
        c.Unfinished o.state w := by
  rintro o f hhalt
  cases hhalt
  have hwork' : c.Unfinished o.state w := hwork.of_remembering
  exact ⟨rfl, ⟨⟨v, memory, screen, rfl⟩, rfl, hwork'.capacity_eq, hwork'.sides_eq.1,
    hwork'.sides_eq.2⟩, hwork'⟩

/-- **What a faulting step leaves behind.** It sends one notice, and changes nothing but data, the
last word and the last fault, which names the place where the step began. If the word could not be
fetched no data was changed either; otherwise what was done of it is done. -/
theorem aftermath_of_fault (hc : c.WellFormed) (hsmall : c.memory.capacity ≤ 0xFFFF) {f : Fault}
    (h : c.step.halt = some (.fault f)) :
    c.step.signals = [.notice (.faulted f)] ∧
      (((∃ cause, c.fetch = .error cause) ∧ c.Aftermath f none c.step.state ∧
          c.NothingDone c.step.state) ∨
        ∃ w, c.fetch = .ok w ∧ c.Aftermath f (some w) c.step.state ∧
          c.Unfinished c.step.state w) := by
  have hlt : c.memory.capacity < 65536 := by omega
  cases hfetch : c.fetch with
  | error cause =>
    rw [step_of_fetch_error hfetch] at h ⊢
    cases h
    exact ⟨rfl, Or.inl ⟨⟨cause, rfl⟩,
      ⟨⟨c.registers.v, c.memory, c.screen, rfl⟩, rfl, rfl, rfl, rfl⟩, ⟨rfl, rfl, rfl⟩⟩⟩
  | ok w =>
    suffices hstep : c.step.signals = [.notice (.faulted f)] ∧
        c.Aftermath f (some w) c.step.state ∧ c.Unfinished c.step.state w from
      ⟨hstep.1, Or.inr ⟨w, rfl, hstep.2⟩⟩
    have hw := (fetch_eq_ok hfetch).2.2
    cases hdecode : decode w with
    | none =>
      have hspan : wordSpan w = 0 := wordSpan_of_isUnknown ((decode_eq_none_iff hw).1 hdecode)
      rw [step_of_unknown hfetch hdecode] at h ⊢
      exact aftermath_of_recordFault (.nothing hspan (.refl _)) f h
    | some i =>
      have hi := standsFor_of_decode hw hdecode
      cases hobstacle : c.obstacle i with
      | none =>
        have hnone : c.stepObstacle = none := by
          simp only [stepObstacle, hfetch, hdecode, hobstacle]
        -- Without an obstacle the clock alone could have halted the step, and that is no fault.
        rcases halt_step_of_none hc hnone with hdone | ⟨e, -, he⟩
        · cases h.symm.trans hdone
        · cases h.symm.trans he
      | some cause =>
        obtain ⟨v, memory, screen, hperform, hwork⟩ :=
          exists_perform_eq_faulted (hc.remembering w) hlt hi
            ((obstacle_remembering c w i).trans hobstacle) w
        have hstop : (c.performed w i).halt = some (.fault { cause }) := by
          rw [performed, hperform]
          rfl
        rw [step_of_stopped hfetch hdecode hstop, performed, hperform] at h ⊢
        exact aftermath_of_recordFault hwork f h

/-- The store that faults at the end of eighty bytes has stored the two that fit. -/
theorem aftermath_of_storing :
    ∃ f, storing.WellFormed ∧ storing.memory.capacity ≤ 0xFFFF ∧
      storing.step.halt = some (.fault f) ∧ f.context = some ⟨0, 0, 78, some 0xF355⟩ ∧
      storing.step.state.memory.read 78 = .ok 7 ∧ storing.step.state.memory.read 79 = .ok 7 := by
  have hobstacle : storing.stepObstacle = some (.outOfBounds 80 80) :=
    stepObstacle_of_stepFault wellFormed_storing (by decide)
      (.block fetch_storing (by decide) (by decide))
  obtain ⟨place, hhalt⟩ := halt_step_of_some wellFormed_storing hobstacle
  obtain ⟨-, ⟨⟨cause, herror⟩, -⟩ | ⟨w, hfetch, haftermath, hwork⟩⟩ :=
    aftermath_of_fault wellFormed_storing capacity_storing hhalt
  · cases fetch_storing.symm.trans herror
  · cases fetch_storing.symm.trans hfetch
    refine ⟨_, wellFormed_storing, capacity_storing, hhalt, haftermath.context_eq, ?_⟩
    cases hwork with
    | registers _ _ h =>
      exact ⟨h.read_inside 0 (by decide) (by decide), h.read_inside 1 (by decide) (by decide)⟩
    | nothing hspan => exact absurd hspan (by decide)
    | digits _ hlow => exact absurd hlow (by decide)
    | load _ hlow => exact absurd hlow (by decide)
    | draw hw => exact absurd hw (by decide)

end ChipEight.Computer
