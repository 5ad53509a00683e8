import ChipEight.Proofs.Computer.Stepping
import ChipEight.Proofs.Memory.Run

/-!
# Registers kept in memory

A program keeps its registers in memory with one instruction and takes them back with another. The
two are written apart, each with addresses of its own, and both go to **the same block**: the run of
the first byte registers at `I` (`registerRun`).

* A store that gets to its end leaves a memory that holds the run, because the addresses of a block
  differ from each other even where it wraps. A load from such a memory gets to its end and finds
  the bytes (`doLoadRegisters_of_holds`), **whatever the registers are by then**.
* A load that gets to its end has made the registers those of the memory, so the memory holds their
  run, and to store it changes nothing (`doStoreRegisters_of_holds`).

No range is assumed. The memory can be as small or as large as one likes, and `I` any number.
-/

namespace ChipEight.Computer

open Instruction

variable {c : Computer} {x : Reg}

/-! ### The two words -/

/-- The word that stores `V0` to `Vx`. -/
def storeWord (x : Reg) : Nat := 0xF055 + 0x100 * x

/-- The word that loads them. -/
def loadWord (x : Reg) : Nat := 0xF065 + 0x100 * x

/-- A word of the family `F`, by its register and its last two digits. -/
theorem execute_family (low : Nat) {w : Nat} (hw : w = 0xF000 + low + 0x100 * x)
    (hlow : low < 0x100) {i : Reg → Instruction}
    (hi : w / 0x1000 = 0xF → w % 0x100 = low → StandsFor w (i (regX w))) :
    c.execute w = c.perform w (i x) := by
  have hx := x.isLt
  have hregister : regX w = x := Fin.ext (by
    show w / 0x100 % 16 = x
    omega)
  have hword : StandsFor w (i x) := hregister ▸ hi (by omega) (by omega)
  exact execute_of_decode (by omega) (decode_of_standsFor hword)

theorem execute_storeWord (c : Computer) (x : Reg) :
    c.execute (storeWord x) = c.doStoreRegisters x :=
  execute_family 0x55 rfl (by decide) .storeRegisters

theorem execute_loadWord (c : Computer) (x : Reg) :
    c.execute (loadWord x) = c.doLoadRegisters x :=
  execute_family 0x65 rfl (by decide) .loadRegisters

/-! ### The first registers -/

/-- The registers `V0` to `Vx`, each at its address from `I` on. -/
def registerRun (c : Computer) (x : Reg) : List (Int × UInt8) :=
  blockAt c.registers.i (c.firstRegisters x)

theorem map_fst_registerRun (c : Computer) (x : Reg) :
    (c.registerRun x).map Prod.fst = blockAddresses c.registers.i (x + 1) := by
  rw [registerRun, map_fst_blockAt, length_firstRegisters]

theorem getElem_firstRegisters (c : Computer) (x k : Reg) (h : k < (c.firstRegisters x).length) :
    (c.firstRegisters x)[k.val] = c.v k := by
  simp only [firstRegisters, List.getElem_take, Vector.getElem_toList]
  rfl

theorem getD_firstRegisters (c : Computer) (x k : Reg) (other : UInt8) :
    (c.firstRegisters x).getD k other = if k ≤ x then c.v k else other := by
  have hlength := c.length_firstRegisters x
  rw [List.getD_eq_getElem?_getD]
  split
  · next hle =>
    have hlt : k.val < x + 1 := Nat.lt_succ_of_le hle
    rw [List.getElem?_eq_getElem (by omega), Option.getD_some, getElem_firstRegisters]
  · next hgt =>
    have hge : x + 1 ≤ k.val := Nat.lt_of_not_le hgt
    rw [List.getElem?_eq_none (by omega), Option.getD_none]

/-! ### Stores and loads that get to their ends -/

/-- The computer behind a store. -/
def withStored (c : Computer) (x : Reg) : Computer :=
  { c with memory := (c.memory.writeAll (c.registerRun x)).1 }.next

/-- The computer behind a load that has found the given bytes. -/
def withLoaded (c : Computer) (bytes : List UInt8) : Computer :=
  { c with registers := c.registers.setFirst bytes }.next

theorem memory_withLoaded (c : Computer) (bytes : List UInt8) :
    (c.withLoaded bytes).memory = c.memory := by
  simp only [withLoaded, next]

theorem v_withLoaded (c : Computer) (bytes : List UInt8) (k : Reg) :
    (c.withLoaded bytes).v k = bytes.getD k (c.v k) := by
  simp only [withLoaded, next, v, Registers.v_next, Registers.v_setFirst]

theorem i_withLoaded (c : Computer) (bytes : List UInt8) :
    (c.withLoaded bytes).registers.i = c.registers.i := by
  simp only [withLoaded, next, Registers.next, Registers.i_setFirst]

/-- **Loaded registers are the bytes they were loaded from.** -/
theorem firstRegisters_withLoaded {bytes : List UInt8} (h : bytes.length = x + 1) :
    (c.withLoaded bytes).firstRegisters x = bytes := by
  have hx := x.isLt
  refine List.ext_getElem (by rw [length_firstRegisters, h]) fun k hk hk' ↦ ?_
  rw [getElem_firstRegisters _ x ⟨k, by omega⟩ hk, v_withLoaded, List.getD_eq_getElem?_getD,
    List.getElem?_eq_getElem hk', Option.getD_some]

/-- A store that gets to its end has stored the whole run. -/
theorem doStoreRegisters_eq_done (hdone : (c.doStoreRegisters x).halt = none) :
    (c.memory.writeAll (c.registerRun x)).2 = none ∧
      c.doStoreRegisters x = .done (c.withStored x) := by
  rw [doStoreRegisters_eq_goOn] at hdone ⊢
  exact goOn_eq_done hdone

/-- A load that gets to its end has loaded every byte of the block. -/
theorem doLoadRegisters_eq_done (hdone : (c.doLoadRegisters x).halt = none) :
    let run := c.memory.readAll (blockAddresses c.registers.i (x + 1))
    run.2 = none ∧ c.doLoadRegisters x = .done (c.withLoaded run.1) := by
  rw [doLoadRegisters_eq_goOn] at hdone ⊢
  exact goOn_eq_done hdone

/-- **What the memory holds is loaded.** -/
theorem doLoadRegisters_of_holds {bytes : List UInt8} (hlength : bytes.length = x + 1)
    (h : c.memory.Holds (blockAt c.registers.i bytes)) :
    c.doLoadRegisters x = .done (c.withLoaded bytes) := by
  have hread := h.readAll
  rw [map_fst_blockAt, map_snd_blockAt, hlength] at hread
  rw [doLoadRegisters_eq_goOn]
  simp only [hread]
  rfl

/-- **What the memory holds is stored without a change.** -/
theorem doStoreRegisters_of_holds (h : c.memory.Holds (c.registerRun x)) :
    c.doStoreRegisters x = .done c.next := by
  have hwrite : c.memory.writeAll (blockAt c.registers.i (c.firstRegisters x)) = (c.memory, none) :=
    h.writeAll
  rw [doStoreRegisters_eq_goOn]
  simp only [hwrite]
  rfl

/-- **Outside its block a store changes nothing.** -/
theorem read_withStored {a : Int} (h : (c.withStored x).memory.read a ≠ c.memory.read a) :
    ∃ k ≤ x.val, a = (c.registers.i + k) % 65536 := by
  by_contra hother
  refine h (Memory.read_writeAll_outside ?_)
  rw [map_fst_registerRun, mem_blockAddresses]
  rintro ⟨k, hk, rfl⟩
  exact hother ⟨k, Nat.le_of_lt_succ hk, rfl⟩

/-! ### There and back -/

/-- **A load behind a store** finds what was stored. -/
theorem doLoadRegisters_of_stored {changed : Computer}
    (hdone : (c.memory.writeAll (c.registerRun x)).2 = none)
    (hmemory : changed.memory = (c.withStored x).memory)
    (hi : changed.registers.i = c.registers.i) :
    changed.doLoadRegisters x = .done (changed.withLoaded (c.firstRegisters x)) := by
  have hx := x.isLt
  refine doLoadRegisters_of_holds (c.length_firstRegisters x) ?_
  rw [hmemory, hi]
  refine Memory.holds_writeAll ?_ hdone
  rw [map_fst_registerRun]
  exact nodup_blockAddresses _ (by omega)

/-- **A store behind a load** stores what was found. -/
theorem doStoreRegisters_of_loaded
    (hdone : (c.memory.readAll (blockAddresses c.registers.i (x + 1))).2 = none) :
    let loaded := c.withLoaded (c.memory.readAll (blockAddresses c.registers.i (x + 1))).1
    loaded.doStoreRegisters x = .done loaded.next := by
  intro loaded
  obtain ⟨hlength, hholds⟩ := Memory.holds_of_readAll hdone
  rw [length_blockAddresses] at hlength
  refine doStoreRegisters_of_holds ?_
  rw [registerRun, firstRegisters_withLoaded hlength, i_withLoaded, memory_withLoaded,
    blockAt_eq_zip, hlength]
  exact hholds

/-- **Storing registers and loading them are inverse to each other.** A store that gets to its end
changes the memory at the addresses of its block alone, and the registers and `I` not at all; and
then, whatever becomes of the computer, the memory and `I` excepted, a load of as many registers
gets to its end and gives them the values that were stored, and leaves the others as they are. The
other way round, a store right behind a load that got to its end does so too, and leaves the memory
as it was. -/
theorem store_load_inverse (c : Computer) (x : Reg) :
    ((c.execute (storeWord x)).halt = none →
      let stored := (c.execute (storeWord x)).state
      stored.registers.i = c.registers.i ∧ stored.registers.v = c.registers.v ∧
        (∀ a, stored.memory.read a ≠ c.memory.read a →
          ∃ k ≤ x.val, a = (c.registers.i + k) % 65536) ∧
        ∀ changed : Computer, changed.memory = stored.memory →
          changed.registers.i = stored.registers.i →
          let o := changed.execute (loadWord x)
          o.halt = none ∧ (∀ k : Reg, o.state.v k = if k ≤ x then c.v k else changed.v k) ∧
            o.state.registers.i = c.registers.i ∧ o.state.memory = stored.memory) ∧
    ((c.execute (loadWord x)).halt = none →
      let loaded := (c.execute (loadWord x)).state
      let o := loaded.execute (storeWord x)
      o.halt = none ∧ o.state.registers.i = c.registers.i ∧ o.state.memory = c.memory) := by
  simp only [execute_storeWord, execute_loadWord]
  constructor
  · intro hdone
    obtain ⟨hwritten, hstored⟩ := doStoreRegisters_eq_done hdone
    rw [hstored]
    refine ⟨rfl, rfl, fun a ↦ read_withStored, fun changed hmemory hi ↦ ?_⟩
    rw [doLoadRegisters_of_stored hwritten hmemory hi]
    refine ⟨rfl, fun k ↦ ?_, (i_withLoaded _ _).trans hi, (memory_withLoaded _ _).trans hmemory⟩
    exact (v_withLoaded _ _ k).trans (getD_firstRegisters c x k _)
  · intro hdone
    obtain ⟨hread, hloaded⟩ := doLoadRegisters_eq_done hdone
    have hstore := doStoreRegisters_of_loaded hread
    rw [hloaded]
    simp only [Outcome.done] at hstore ⊢
    rw [hstore]
    refine ⟨rfl, ?_, ?_⟩
    · simp only [next, Registers.next, i_withLoaded]
    · simp only [next, memory_withLoaded]

/-- A computer with a seven and a nine in its first registers, and room for them at `I`. -/
def keeping : Computer :=
  (((plain (.initial 0) (.blank 80)).setV 0 7).setV 1 9).setI 0x20

/-- The computer with every byte register filled. -/
def filled (c : Computer) : Computer :=
  { c with registers := { c.registers with v := Vector.replicate 16 0xFF } }

/-- **The seven and the nine come back**, and the register behind them stays filled. -/
theorem store_load_inverse_keeping :
    let stored := (keeping.execute (storeWord 1)).state
    let loaded := (stored.filled.execute (loadWord 1)).state
    (loaded.v 0 = 7 ∧ loaded.v 1 = 9 ∧ loaded.v 2 = 0xFF) ∧
      ((keeping.execute (loadWord 1)).state.execute (storeWord 1)).state.memory =
        keeping.memory := by
  intro stored loaded
  have hstored : (keeping.execute (storeWord 1)).halt = none := by decide +kernel
  have hloaded : (keeping.execute (loadWord 1)).halt = none := by decide +kernel
  obtain ⟨hstore, hload⟩ := store_load_inverse keeping 1
  obtain ⟨-, hv, -⟩ := (hstore hstored).2.2.2 stored.filled rfl rfl
  exact ⟨⟨hv 0, hv 1, hv 2⟩, (hload hloaded).2.2⟩

end ChipEight.Computer
