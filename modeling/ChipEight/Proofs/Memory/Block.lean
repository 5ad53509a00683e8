import ChipEight.Computer.Execute
import Mathlib.Data.List.Basic

/-!
# Blocks of memory

A **block** is a run of accesses to consecutive addresses, counted up from a start and wrapped to
sixteen bits on the way. In a memory of less than `0x10000` bytes **the wrap is never seen**: the
addresses run out of the memory before they run out of bits, so a block that reaches too far faults
at the first address beyond the end and touches nothing at the bottom
(`writeAll_blockAt`, `readAll_blockAddresses`).

`blockFault` is the fault of a block, the same one for stores and loads. What is done before the
fault is the part of the block that lies in the memory: `read_load_inside` and `read_load_outside`
say it of stores, `read_of_readAll_blockAddresses` of loads.
-/

namespace ChipEight

namespace Memory

variable {m : Memory}

/-! ### Single accesses -/

@[simp] theorem capacity_set (m : Memory) (address : Int) (byte : UInt8) :
    (m.set address byte).capacity = m.capacity := rfl

theorem toNat_lt_size_cells {address : Int} (h : m.InBounds address) :
    address.toNat < m.cells.size := by
  obtain ⟨h0, hlt⟩ := h
  rw [m.size_cells]
  omega

/-- An address of the bank's own can be read. -/
theorem read_eq_getD {address : Int} (h : m.InBounds address) :
    m.read address = .ok (m.cells.getD address.toNat 0) := by
  rw [read, dif_pos h, Array.getD_eq_getD_getElem?,
    Array.getElem?_eq_getElem (toNat_lt_size_cells h)]
  rfl

/-- And no other can. -/
theorem inBounds_of_read_eq_ok {address : Int} {byte : UInt8} (h : m.read address = .ok byte) :
    m.InBounds address := by
  by_contra hout
  rw [read_eq_error hout] at h
  exact nomatch h

/-- Two memories of one capacity differ at addresses **that both have**. -/
theorem inBounds_of_read_ne {m' : Memory} {address : Int} (hcap : m'.capacity = m.capacity)
    (hne : m'.read address ≠ m.read address) : m.InBounds address := by
  by_contra hout
  have hout' : ¬ m'.InBounds address := fun h ↦ hout ⟨h.1, hcap ▸ h.2⟩
  rw [read_eq_error hout, read_eq_error hout', faultAt, faultAt, hcap] at hne
  exact hne rfl

/-- A changed byte is seen at its own address, and nowhere else. -/
theorem read_set {address : Int} (h : m.InBounds address) (byte : UInt8) (a : Int) :
    (m.set address byte).read a = if a = address then .ok byte else m.read a := by
  by_cases ha : m.InBounds a
  · have hset : (m.set address byte).cells[a.toNat]? =
        if address.toNat = a.toNat then some byte else m.cells[a.toNat]? := by
      show (m.cells.setIfInBounds address.toNat byte)[a.toNat]? = _
      rw [Array.getElem?_setIfInBounds, if_pos (toNat_lt_size_cells h)]
    rw [read_eq_getD (m := m.set address byte) ha, read_eq_getD ha,
      Array.getD_eq_getD_getElem?, Array.getD_eq_getD_getElem?, hset]
    obtain ⟨h0, -⟩ := h
    obtain ⟨ha0, -⟩ := ha
    by_cases heq : a = address
    · rw [if_pos heq, if_pos (by omega), Option.getD_some]
    · rw [if_neg heq, if_neg (by omega)]
  · have ha' : ¬ (m.set address byte).InBounds a := ha
    have hne : a ≠ address := fun heq ↦ ha (heq ▸ h)
    rw [read_eq_error ha', read_eq_error ha, if_neg hne]
    rfl

/-- **A bank is known by its capacity and its bytes.** -/
theorem eq_of_read_eq {m m' : Memory} (hcap : m.capacity = m'.capacity)
    (h : ∀ a, m.InBounds a → m.read a = m'.read a) : m = m' := by
  refine Memory.ext hcap (Array.ext ?_ fun n hn hn' ↦ ?_)
  · rw [m.size_cells, m'.size_cells, hcap]
  · have hin : m.InBounds n := by
      rw [m.size_cells] at hn
      exact ⟨Int.natCast_nonneg n, by omega⟩
    have hread := h n hin
    rw [read_eq_getD hin, read_eq_getD (m := m') ⟨hin.1, hcap ▸ hin.2⟩] at hread
    have hbyte := Except.ok.inj hread
    rwa [Int.toNat_natCast, Array.getD_eq_getD_getElem?, Array.getD_eq_getD_getElem?,
      Array.getElem?_eq_getElem hn, Array.getElem?_eq_getElem hn'] at hbyte

/-- A blank memory reads zero where it has bytes. -/
theorem read_blank (capacity a : Int) :
    (blank capacity).read a =
      if 0 ≤ a ∧ a < capacity then .ok 0 else .error (.outOfBounds a capacity) := by
  by_cases hin : (blank capacity).InBounds a
  · have hread : (blank capacity).read a = .ok 0 := by
      rw [read_eq_getD hin]
      simp only [blank, Array.getD_eq_getD_getElem?, Array.getElem?_replicate]
      split <;> rfl
    rw [hread]
    exact (if_pos hin).symm
  · rw [read_eq_error hin]
    exact (if_neg hin).symm

/-! ### Faults of runs -/

/-- A run of loads, address by address. -/
theorem readAll_cons (m : Memory) (address : Int) (rest : List Int) :
    m.readAll (address :: rest) =
      if m.InBounds address then
        (m.cells.getD address.toNat 0 :: (m.readAll rest).1, (m.readAll rest).2)
      else ([], some (m.faultAt address)) := by
  by_cases hin : m.InBounds address
  · rw [readAll, read_eq_getD hin, if_pos hin]
  · rw [readAll, read_eq_error hin, if_neg hin]

/-- A run of stores faults at an address, if at all. -/
theorem cause_of_writeAll {run : List (Int × UInt8)} {cause : Fault.Cause}
    (h : (m.writeAll run).2 = some cause) : ∃ address, cause = m.faultAt address := by
  induction run generalizing m with
  | nil => exact nomatch h
  | cons entry rest ih =>
    rw [writeAll] at h
    split at h
    · exact ih (m := m.set entry.1 entry.2) h
    · exact ⟨entry.1, (Option.some.inj h).symm⟩

/-- And so does a run of loads. -/
theorem cause_of_readAll {addresses : List Int} {cause : Fault.Cause}
    (h : (m.readAll addresses).2 = some cause) : ∃ address, cause = m.faultAt address := by
  induction addresses with
  | nil => exact nomatch h
  | cons address rest ih =>
    rw [readAll_cons] at h
    split at h
    · exact ih h
    · exact ⟨address, (Option.some.inj h).symm⟩

/-- The fault of a block of `n` bytes from `start` on: **none if the block is empty**, wherever it
starts, or lies in the memory; otherwise the first address that does not. -/
def blockFault (m : Memory) (start : Int) (n : Nat) : Option Fault.Cause :=
  if n = 0 ∨ start + n ≤ m.capacity then none else some (m.faultAt (max start m.capacity))

/-- Behind an address that can be used, a block goes on as the rest of it. -/
theorem blockFault_succ {start : Int} (n : Nat) (h : m.InBounds start) :
    m.blockFault start (n + 1) = m.blockFault (start + 1) n := by
  obtain ⟨-, hlt⟩ := h
  have hmax : max start m.capacity = max (start + 1) m.capacity := by omega
  unfold blockFault
  rw [hmax]
  congr 1
  simp only [eq_iff_iff]
  omega

theorem blockFault_of_not_inBounds {start : Int} (n : Nat) (h0 : 0 ≤ start)
    (h : ¬ m.InBounds start) : m.blockFault start (n + 1) = some (m.faultAt start) := by
  have hle : m.capacity ≤ start := by
    by_contra hgt
    exact h ⟨h0, by omega⟩
  rw [blockFault, if_neg (by omega), Int.max_eq_left hle]

/-! ### Stores to consecutive addresses -/

/-- The first byte of a load and the rest of it. -/
theorem load_cons (m : Memory) (start : Int) (byte : UInt8) (rest : List UInt8) :
    m.load start (byte :: rest) =
      if m.InBounds start then (m.set start byte).load (start + 1) rest
      else (m, some (m.faultAt start)) := by
  simp only [load, loadNumbers, List.map_cons, writeFrom, write, store, lowByte_toNat]
  by_cases hin : m.InBounds start
  · simp only [if_pos hin]
    -- The rest is counted from another start, and that is all the difference.
    generalize (m.set start byte).writeFrom (start + 1)
      (rest.map fun byte ↦ (byte.toNat : Int)) = run
    obtain ⟨loaded, cause | reached⟩ := run
    · rfl
    · rfl
  · simp only [if_neg hin]
    rfl

/-- Each byte with its address, counted up from `start`. -/
def addressed (start : Int) : List UInt8 → List (Int × UInt8)
  | [] => []
  | byte :: rest => (start, byte) :: addressed (start + 1) rest

/-- **A load is a run of stores**, if it does not matter how many there are. -/
theorem load_eq_writeAll (m : Memory) (start : Int) (bytes : List UInt8) :
    m.load start bytes = m.writeAll (addressed start bytes) := by
  induction bytes generalizing m start with
  | nil => rfl
  | cons byte rest ih => rw [load_cons, addressed, writeAll, ih]

@[simp] theorem capacity_load (m : Memory) (start : Int) (bytes : List UInt8) :
    (m.load start bytes).1.capacity = m.capacity := by
  rw [load_eq_writeAll]
  exact capacity_writeAll m _

theorem fault_load {start : Int} (h0 : 0 ≤ start) (bytes : List UInt8) :
    (m.load start bytes).2 = m.blockFault start bytes.length := by
  induction bytes generalizing m start with
  | nil => rfl
  | cons byte rest ih =>
    rw [load_cons, List.length_cons]
    by_cases hin : m.InBounds start
    · rw [if_pos hin, ih (by omega), blockFault_succ _ hin]
      rfl
    · rw [if_neg hin, blockFault_of_not_inBounds _ h0 hin]

/-- Outside the block, and beyond the end of the memory, nothing changes. -/
theorem read_load_outside {start a : Int} {bytes : List UInt8}
    (h : a < start ∨ start + bytes.length ≤ a ∨ m.capacity ≤ a) :
    (m.load start bytes).1.read a = m.read a := by
  induction bytes generalizing m start with
  | nil => rfl
  | cons byte rest ih =>
    rw [load_cons]
    rw [List.length_cons] at h
    by_cases hin : m.InBounds start
    · have hne : a ≠ start := by
        have := hin.2
        omega
      rw [if_pos hin, ih (by rw [capacity_set]; omega), read_set hin, if_neg hne]
    · rw [if_neg hin]

/-- The bytes that fit are stored, **even if a later one does not fit**. -/
theorem read_load_inside {start : Int} {bytes : List UInt8} (h0 : 0 ≤ start) {k : Nat}
    (hk : k < bytes.length) (h : start + k < m.capacity) :
    (m.load start bytes).1.read (start + k) = .ok bytes[k] := by
  induction bytes generalizing m start k with
  | nil => exact absurd hk (Nat.not_lt_zero k)
  | cons byte rest ih =>
    have hin : m.InBounds start := ⟨h0, by omega⟩
    rw [load_cons, if_pos hin]
    cases k with
    | zero =>
      rw [read_load_outside (Or.inl (by omega)), read_set hin, if_pos (by omega)]
      rfl
    | succ k =>
      rw [show start + ((k + 1 : Nat) : Int) = start + 1 + k by omega]
      exact ih (by omega) (Nat.lt_of_succ_lt_succ hk) (by rw [capacity_set]; omega)

end Memory

/-! ### Wrapped addresses -/

theorem wrap16_eq_self {z : Int} (h0 : 0 ≤ z) (h : z < 65536) : wrap16 z = z :=
  Int.emod_eq_of_lt h0 h

namespace Computer

/-- The addresses of a block: `n` of them, counted up from `i` and wrapped to sixteen bits. -/
def blockAddresses (i : Int) (n : Nat) : List Int :=
  (List.range n).map fun (k : Nat) ↦ wrap16 (i + k)

theorem blockAddresses_succ (i : Int) (n : Nat) :
    blockAddresses i (n + 1) = wrap16 i :: blockAddresses (i + 1) n := by
  simp only [blockAddresses, List.range_succ_eq_map, List.map_cons, List.map_map]
  congr 1
  · rw [Int.natCast_zero, Int.add_zero]
  · refine List.map_congr_left fun k _ ↦ ?_
    simp only [Function.comp_apply]
    congr 1
    omega

theorem blockAt_cons (i : Int) (byte : UInt8) (rest : List UInt8) :
    blockAt i (byte :: rest) = (wrap16 i, byte) :: blockAt (i + 1) rest := by
  simp only [blockAt, List.zipIdx_cons', List.map_cons, List.map_map]
  congr 1
  · rw [Int.natCast_zero, Int.add_zero]
  · refine List.map_congr_left fun entry _ ↦ ?_
    simp only [Function.comp_apply, Prod.map, id_eq, Prod.mk.injEq, and_true]
    congr 1
    omega

end Computer

namespace Memory

open Computer

variable {m : Memory}

/-- **The wrap of a stored block is never seen** in a memory that has no address `0xFFFF`. -/
theorem writeAll_blockAt (hsmall : m.capacity < 65536) {i : Int} (h0 : 0 ≤ i) (hi : i < 65536)
    (bytes : List UInt8) : m.writeAll (blockAt i bytes) = m.load i bytes := by
  induction bytes generalizing m i with
  | nil => rfl
  | cons byte rest ih =>
    rw [blockAt_cons, writeAll, load_cons, wrap16_eq_self h0 hi]
    by_cases hin : m.InBounds i
    · have hlt := hin.2
      rw [if_pos hin, if_pos hin, ih (m := m.set i byte) hsmall (by omega) (by omega)]
    · rw [if_neg hin, if_neg hin]

/-- And neither is that of a loaded block. -/
theorem fault_readAll_blockAddresses (hsmall : m.capacity < 65536) {i : Int} (h0 : 0 ≤ i)
    (hi : i < 65536) (n : Nat) :
    (m.readAll (blockAddresses i n)).2 = m.blockFault i n := by
  induction n generalizing i with
  | zero => rfl
  | succ n ih =>
    rw [blockAddresses_succ, readAll_cons, wrap16_eq_self h0 hi]
    by_cases hin : m.InBounds i
    · have hlt := hin.2
      rw [if_pos hin, blockFault_succ n hin]
      exact ih (by omega) (by omega)
    · rw [if_neg hin, blockFault_of_not_inBounds n h0 hin]

/-- **A block is read to its end if each of its bytes is there**, also where it wraps. -/
theorem readAll_blockAddresses_of_read {i : Int} {bytes : List UInt8}
    (h : ∀ k (hk : k < bytes.length), m.read (wrap16 (i + k)) = .ok bytes[k]) :
    m.readAll (blockAddresses i bytes.length) = (bytes, none) := by
  induction bytes generalizing i with
  | nil => rfl
  | cons byte rest ih =>
    have hfirst : m.read (wrap16 i) = .ok byte := by
      rw [← Int.add_zero i]
      exact h 0 (Nat.succ_pos _)
    have hrest : m.readAll (blockAddresses (i + 1) rest.length) = (rest, none) := by
      refine ih fun k hk ↦ ?_
      rw [show i + 1 + (k : Int) = i + ((k + 1 : Nat) : Int) by omega]
      exact h (k + 1) (Nat.succ_lt_succ hk)
    rw [List.length_cons, blockAddresses_succ, readAll, hfirst]
    simp only [hrest]

/-- A loaded block reads, up to its fault, as many bytes as the memory has there. -/
theorem length_readAll_blockAddresses (hsmall : m.capacity < 65536) {i : Int} (h0 : 0 ≤ i)
    (hi : i < 65536) (n : Nat) :
    (m.readAll (blockAddresses i n)).1.length = min n (m.capacity - i).toNat := by
  induction n generalizing i with
  | zero => rw [Nat.zero_min]; rfl
  | succ n ih =>
    rw [blockAddresses_succ, readAll_cons, wrap16_eq_self h0 hi]
    by_cases hin : m.InBounds i
    · have hlt := hin.2
      have hrest := ih (i := i + 1) (by omega) (by omega)
      rw [if_pos hin, List.length_cons, hrest]
      omega
    · have hle : m.capacity ≤ i := by
        by_contra hgt
        exact hin ⟨h0, by omega⟩
      rw [if_neg hin, List.length_nil]
      omega

/-- And each of them is the byte at its address, counted up **without a wrap**. -/
theorem read_of_readAll_blockAddresses (hsmall : m.capacity < 65536) {i : Int} (h0 : 0 ≤ i)
    (hi : i < 65536) {n k : Nat} {byte : UInt8}
    (h : (m.readAll (blockAddresses i n)).1[k]? = some byte) : m.read (i + k) = .ok byte := by
  induction n generalizing i k with
  | zero => exact nomatch h
  | succ n ih =>
    rw [blockAddresses_succ, readAll_cons, wrap16_eq_self h0 hi] at h
    by_cases hin : m.InBounds i
    · rw [if_pos hin] at h
      cases k with
      | zero =>
        rw [Int.natCast_zero, Int.add_zero, read_eq_getD hin]
        exact congrArg Except.ok (Option.some.inj h)
      | succ k =>
        have hlt := hin.2
        rw [show i + ((k + 1 : Nat) : Int) = i + 1 + k by omega]
        exact ih (by omega) (by omega) h
    · rw [if_neg hin] at h
      exact nomatch h

end Memory

end ChipEight
