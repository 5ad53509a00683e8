import ChipEight.Proofs.Memory.Block
import Mathlib.Data.List.Nodup

/-!
# Runs of accesses

What stops a run of stores or loads is settled by its addresses and by the **capacity** of the
memory; the bytes have no part in it (`fault_writeAll_congr`, `fault_readAll_congr`).

A run is **held** by a memory that has each of its bytes at its address. A run of stores that gets
to its end is held afterwards, provided that no address comes twice (`holds_writeAll`): a later
store would take the place of an earlier one. A run that is held can be read back (`Holds.readAll`),
and to store it changes nothing (`Holds.writeAll`). The addresses of a block are such addresses,
also where the block wraps, up to `0x10000` of them (`nodup_blockAddresses`).
-/

namespace ChipEight

namespace Memory

variable {m m' : Memory} {run : List (Int × UInt8)}

/-! ### What stops a run -/

/-- What stops a run of stores is in the capacity of the memory and not in its bytes. -/
theorem fault_writeAll_congr (hcap : m'.capacity = m.capacity) (run : List (Int × UInt8)) :
    (m'.writeAll run).2 = (m.writeAll run).2 := by
  induction run generalizing m m' with
  | nil => rfl
  | cons entry rest ih =>
    by_cases hin : m.InBounds entry.1
    · have hin' : m'.InBounds entry.1 := ⟨hin.1, hcap ▸ hin.2⟩
      rw [writeAll, writeAll, if_pos hin, if_pos hin']
      exact ih (m := m.set entry.1 entry.2) hcap
    · have hin' : ¬ m'.InBounds entry.1 := fun h ↦ hin ⟨h.1, hcap ▸ h.2⟩
      rw [writeAll, writeAll, if_neg hin, if_neg hin', faultAt, faultAt, hcap]

/-- And so is what stops a run of loads. -/
theorem fault_readAll_congr (hcap : m'.capacity = m.capacity) (addresses : List Int) :
    (m'.readAll addresses).2 = (m.readAll addresses).2 := by
  induction addresses with
  | nil => rfl
  | cons address rest ih =>
    by_cases hin : m.InBounds address
    · have hin' : m'.InBounds address := ⟨hin.1, hcap ▸ hin.2⟩
      rw [readAll_cons, readAll_cons, if_pos hin, if_pos hin']
      exact ih
    · have hin' : ¬ m'.InBounds address := fun h ↦ hin ⟨h.1, hcap ▸ h.2⟩
      rw [readAll_cons, readAll_cons, if_neg hin, if_neg hin', faultAt, faultAt, hcap]

/-- A run of stores whose addresses are all there is not stopped. -/
theorem fault_writeAll_eq_none {run : List (Int × UInt8)} (h : ∀ entry ∈ run, m.InBounds entry.1) :
    (m.writeAll run).2 = none := by
  induction run generalizing m with
  | nil => rfl
  | cons entry rest ih =>
    obtain ⟨hfirst, hrest⟩ := List.forall_mem_cons.1 h
    rw [writeAll, if_pos hfirst]
    exact ih (m := m.set entry.1 entry.2) hrest

theorem fault_readAll_eq_none {addresses : List Int} (h : ∀ a ∈ addresses, m.InBounds a) :
    (m.readAll addresses).2 = none := by
  induction addresses with
  | nil => rfl
  | cons address rest ih =>
    obtain ⟨hfirst, hrest⟩ := List.forall_mem_cons.1 h
    rw [readAll_cons, if_pos hfirst]
    exact ih hrest

/-! ### What a run of stores changes -/

/-- **Where a run has no address it changes nothing**, whether it is stopped or not. -/
theorem read_writeAll_outside {a : Int} (h : a ∉ run.map Prod.fst) :
    (m.writeAll run).1.read a = m.read a := by
  induction run generalizing m with
  | nil => rfl
  | cons entry rest ih =>
    obtain ⟨hne, hrest⟩ : a ≠ entry.1 ∧ a ∉ rest.map Prod.fst := by
      rwa [List.map_cons, List.mem_cons, not_or] at h
    rw [writeAll]
    split
    · next hin => rw [ih hrest, read_set hin, if_neg hne]
    · rfl

/-- In two memories of one capacity a run either leaves **the same byte** at an address or leaves
both bytes there alone. -/
theorem read_writeAll_congr (hcap : m'.capacity = m.capacity) (run : List (Int × UInt8)) (a : Int) :
    (m'.writeAll run).1.read a = (m.writeAll run).1.read a ∨
      (m'.writeAll run).1.read a = m'.read a ∧ (m.writeAll run).1.read a = m.read a := by
  induction run generalizing m m' with
  | nil => exact Or.inr ⟨rfl, rfl⟩
  | cons entry rest ih =>
    obtain ⟨address, byte⟩ := entry
    by_cases hin : m.InBounds address
    · have hin' : m'.InBounds address := ⟨hin.1, hcap ▸ hin.2⟩
      rw [writeAll, writeAll, if_pos hin, if_pos hin']
      have hset : (m'.set address byte).capacity = (m.set address byte).capacity := hcap
      rcases ih hset with hsame | ⟨h', h⟩
      · exact Or.inl hsame
      · rw [read_set hin'] at h'
        rw [read_set hin] at h
        by_cases heq : a = address
        · rw [if_pos heq] at h h'
          exact Or.inl (h'.trans h.symm)
        · rw [if_neg heq] at h h'
          exact Or.inr ⟨h', h⟩
    · have hin' : ¬ m'.InBounds address := fun h ↦ hin ⟨h.1, hcap ▸ h.2⟩
      rw [writeAll, writeAll, if_neg hin, if_neg hin']
      exact Or.inr ⟨rfl, rfl⟩

/-- **To store a run again changes nothing**, also where the run is stopped. -/
theorem writeAll_writeAll (m : Memory) (run : List (Int × UInt8)) :
    ((m.writeAll run).1.writeAll run).1 = (m.writeAll run).1 := by
  have hcap := capacity_writeAll m run
  refine eq_of_read_eq (capacity_writeAll _ run) fun a _ ↦ ?_
  rcases read_writeAll_congr hcap run a with hsame | ⟨hsame, -⟩
  · exact hsame
  · exact hsame

/-! ### Runs that are held -/

/-- Each byte of the run is at its address. -/
def Holds (m : Memory) (run : List (Int × UInt8)) : Prop :=
  ∀ entry ∈ run, m.read entry.1 = .ok entry.2

theorem holds_cons {entry : Int × UInt8} :
    m.Holds (entry :: run) ↔ m.read entry.1 = .ok entry.2 ∧ m.Holds run :=
  List.forall_mem_cons

/-- A run of loads has no more bytes than addresses. -/
theorem length_readAll_le (m : Memory) (addresses : List Int) :
    (m.readAll addresses).1.length ≤ addresses.length := by
  induction addresses with
  | nil => exact Nat.le_refl 0
  | cons address rest ih =>
    rw [readAll_cons]
    split
    · exact Nat.succ_le_succ ih
    · exact Nat.zero_le _

/-- **A run that was stored is held**, if its addresses differ from each other. -/
theorem holds_writeAll (hnodup : (run.map Prod.fst).Nodup) (hdone : (m.writeAll run).2 = none) :
    (m.writeAll run).1.Holds run := by
  induction run generalizing m with
  | nil => exact List.forall_mem_nil _
  | cons entry rest ih =>
    obtain ⟨hfirst, hrest⟩ := List.nodup_cons.1 hnodup
    rw [writeAll] at hdone ⊢
    split at hdone
    · next hin =>
      rw [if_pos hin, holds_cons]
      -- The rest of the run does not come back to the first address.
      refine ⟨?_, ih hrest hdone⟩
      rw [read_writeAll_outside hfirst, read_set hin, if_pos rfl]
    · cases hdone

theorem set_eq_self {address : Int} {byte : UInt8} (h : m.read address = .ok byte) :
    m.set address byte = m := by
  refine eq_of_read_eq rfl fun a _ ↦ ?_
  rw [read_set (inBounds_of_read_eq_ok h)]
  split
  · next heq => rw [heq, h]
  · rfl

/-- **To store what is there changes nothing.** -/
theorem Holds.writeAll (h : m.Holds run) : m.writeAll run = (m, none) := by
  induction run with
  | nil => rfl
  | cons entry rest ih =>
    obtain ⟨hfirst, hrest⟩ := holds_cons.1 h
    rw [Memory.writeAll, if_pos (inBounds_of_read_eq_ok hfirst), set_eq_self hfirst]
    exact ih hrest

/-- **And what is there is read**, to the end of the run. -/
theorem Holds.readAll (h : m.Holds run) :
    m.readAll (run.map Prod.fst) = (run.map Prod.snd, none) := by
  induction run with
  | nil => rfl
  | cons entry rest ih =>
    obtain ⟨hfirst, hrest⟩ := holds_cons.1 h
    rw [List.map_cons, Memory.readAll, hfirst]
    simp only [ih hrest, List.map_cons]

/-- A run of loads that gets to its end has a byte for each address, **and the memory holds
them**. -/
theorem holds_of_readAll {addresses : List Int} (hdone : (m.readAll addresses).2 = none) :
    (m.readAll addresses).1.length = addresses.length ∧
      m.Holds (addresses.zip (m.readAll addresses).1) := by
  induction addresses with
  | nil => exact ⟨rfl, List.forall_mem_nil _⟩
  | cons address rest ih =>
    rw [readAll_cons] at hdone ⊢
    split at hdone
    · next hin =>
      obtain ⟨hlength, hrest⟩ := ih hdone
      rw [if_pos hin, List.zip_cons_cons, holds_cons]
      exact ⟨congrArg (· + 1) hlength, read_eq_getD hin, hrest⟩
    · cases hdone

end Memory

/-! ### The run of a block -/

namespace Computer

@[simp] theorem length_blockAddresses (i : Int) (n : Nat) : (blockAddresses i n).length = n := by
  rw [blockAddresses, List.length_map, List.length_range]

theorem mem_blockAddresses {a i : Int} {n : Nat} :
    a ∈ blockAddresses i n ↔ ∃ k < n, a = (i + k) % 65536 := by
  simp only [blockAddresses, List.mem_map, List.mem_range, wrap16, eq_comm]

/-- A block is its addresses with its bytes. -/
theorem blockAt_eq_zip (i : Int) (bytes : List UInt8) :
    blockAt i bytes = (blockAddresses i bytes.length).zip bytes := by
  induction bytes generalizing i with
  | nil => rfl
  | cons byte rest ih =>
    rw [blockAt_cons, ih, List.length_cons, blockAddresses_succ, List.zip_cons_cons]

theorem map_fst_blockAt (i : Int) (bytes : List UInt8) :
    (blockAt i bytes).map Prod.fst = blockAddresses i bytes.length := by
  rw [blockAt_eq_zip, List.map_fst_zip (Nat.le_of_eq (length_blockAddresses i _))]

theorem map_snd_blockAt (i : Int) (bytes : List UInt8) :
    (blockAt i bytes).map Prod.snd = bytes := by
  rw [blockAt_eq_zip, List.map_snd_zip (Nat.le_of_eq (length_blockAddresses i _).symm)]

/-- **The addresses of a block differ from each other**, until it has gone all the way round. -/
theorem nodup_blockAddresses (i : Int) {n : Nat} (h : n ≤ 65536) : (blockAddresses i n).Nodup := by
  refine List.Nodup.map_on (fun j hj k hk heq ↦ ?_) List.nodup_range
  rw [List.mem_range] at hj hk
  rw [wrap16, wrap16] at heq
  omega

end Computer

end ChipEight
