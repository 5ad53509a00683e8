import ChipEight.Proofs.Memory.Block

/-!
# Memories that go on

`m.extendedBy base` is the bank `m` with more bytes behind its own: those that `base` has there.
Where `m` has an address, the longer bank **cannot be told from it**, and a change made there is the
same change made to `m`. So a run of accesses that `m` gets to the end of goes the same for the
longer bank (`writeAll_extendedBy`, `readAll_extendedBy`), and never reaches the base.

A run that `m` stops may well go on. What a run of loads has read by then is still the beginning of
what it reads from the longer bank (`exists_readAll_extendedBy`).
-/

namespace ChipEight

namespace Memory

variable {m base : Memory}

/-- The bank with the bytes of another one behind its own. -/
def extendedBy (m base : Memory) : Memory where
  capacity := max m.capacity base.capacity
  cells := m.cells ++ base.cells.extract m.cells.size base.cells.size
  size_cells := by
    rw [Array.size_append, Array.size_extract, m.size_cells, base.size_cells]
    omega

/-- An extended bank keeps its addresses. -/
theorem InBounds.extendedBy {a : Int} (h : m.InBounds a) (base : Memory) :
    (m.extendedBy base).InBounds a :=
  ⟨h.1, Int.lt_of_lt_of_le h.2 (Int.le_max_left _ _)⟩

/-! ### Single accesses -/

/-- **At its own addresses the bank is in front.** -/
theorem read_extendedBy {a : Int} (h : m.InBounds a) (base : Memory) :
    (m.extendedBy base).read a = m.read a := by
  have hlt := toNat_lt_size_cells h
  rw [read_eq_getD h, read_eq_getD (h.extendedBy base), Array.getD_eq_getD_getElem?,
    Array.getD_eq_getD_getElem?]
  show Except.ok (((m.cells ++ _)[a.toNat]?).getD 0) = _
  rw [Array.getElem?_append_left hlt]

/-- **Behind its end there is the base.** -/
theorem read_extendedBy_of_le {a : Int} (hcap : m.capacity ≤ base.capacity) (h : m.capacity ≤ a) :
    (m.extendedBy base).read a = base.read a := by
  have hmax : (m.extendedBy base).capacity = base.capacity := Int.max_eq_right hcap
  by_cases hin : base.InBounds a
  · have hin' : (m.extendedBy base).InBounds a := ⟨hin.1, hmax ▸ hin.2⟩
    have hlt := toNat_lt_size_cells hin
    have hle : m.cells.size ≤ a.toNat := by
      rw [m.size_cells]
      omega
    rw [read_eq_getD hin, read_eq_getD hin', Array.getD_eq_getD_getElem?,
      Array.getD_eq_getD_getElem?]
    show Except.ok (((m.cells ++ base.cells.extract m.cells.size base.cells.size)[a.toNat]?).getD 0)
      = _
    rw [Array.getElem?_append_right hle, Array.getElem?_extract, if_pos (by omega),
      Nat.add_sub_cancel' hle]
  · have hin' : ¬ (m.extendedBy base).InBounds a := fun h' ↦ hin ⟨h'.1, hmax ▸ h'.2⟩
    rw [read_eq_error hin, read_eq_error hin', faultAt, faultAt, hmax]

/-- A bank that goes on as `base` does, and has its bytes in front, is `base`. -/
theorem extendedBy_eq_base (hcap : m.capacity ≤ base.capacity)
    (h : ∀ a, m.InBounds a → base.read a = m.read a) : m.extendedBy base = base := by
  refine eq_of_read_eq (Int.max_eq_right hcap) fun a hlonger ↦ ?_
  by_cases hin : m.InBounds a
  · rw [read_extendedBy hin, h a hin]
  · have hle : m.capacity ≤ a := by
      by_contra hlt
      exact hin ⟨hlonger.1, by omega⟩
    exact read_extendedBy_of_le hcap hle

/-- A change at an address of the bank's own does not reach the base. -/
theorem set_extendedBy {a : Int} (h : m.InBounds a) (byte : UInt8) (base : Memory) :
    (m.extendedBy base).set a byte = (m.set a byte).extendedBy base := by
  have hlt := toNat_lt_size_cells h
  refine Memory.ext rfl ?_
  show (m.cells ++ base.cells.extract m.cells.size base.cells.size).setIfInBounds a.toNat byte =
    m.cells.setIfInBounds a.toNat byte ++
      base.cells.extract (m.cells.setIfInBounds a.toNat byte).size base.cells.size
  rw [Array.size_setIfInBounds, Array.setIfInBounds_append_left hlt]

/-! ### Runs of accesses -/

/-- **A run of stores that gets to its end never reaches the base.** -/
theorem writeAll_extendedBy {run : List (Int × UInt8)} (h : (m.writeAll run).2 = none)
    (base : Memory) :
    (m.extendedBy base).writeAll run =
      ((m.writeAll run).1.extendedBy base, (m.writeAll run).2) := by
  induction run generalizing m with
  | nil => rfl
  | cons entry rest ih =>
    rw [writeAll] at h
    rw [writeAll, writeAll]
    by_cases hin : m.InBounds entry.1
    · rw [if_pos hin] at h
      rw [if_pos hin, if_pos (hin.extendedBy base), set_extendedBy hin]
      exact ih h
    · rw [if_neg hin] at h
      cases h

/-- Nor does a load. -/
theorem load_extendedBy {start : Int} {bytes : List UInt8} (h : (m.load start bytes).2 = none)
    (base : Memory) :
    (m.extendedBy base).load start bytes =
      ((m.load start bytes).1.extendedBy base, (m.load start bytes).2) := by
  rw [load_eq_writeAll] at h
  rw [load_eq_writeAll, load_eq_writeAll]
  exact writeAll_extendedBy h base

/-- **What a run of loads reads, it reads first from the longer bank**, and then perhaps more. -/
theorem exists_readAll_extendedBy (m base : Memory) (addresses : List Int) :
    ∃ more, ((m.extendedBy base).readAll addresses).1 = (m.readAll addresses).1 ++ more := by
  induction addresses with
  | nil => exact ⟨[], rfl⟩
  | cons address rest ih =>
    by_cases hin : m.InBounds address
    · obtain ⟨more, hmore⟩ := ih
      refine ⟨more, ?_⟩
      have hbyte := read_extendedBy hin base
      rw [read_eq_getD hin, read_eq_getD (hin.extendedBy base)] at hbyte
      rw [readAll_cons, readAll_cons, if_pos hin, if_pos (hin.extendedBy base), hmore,
        Except.ok.inj hbyte, List.cons_append]
    · rw [readAll_cons m, if_neg hin]
      exact ⟨_, rfl⟩

theorem readAll_extendedBy {addresses : List Int} (h : (m.readAll addresses).2 = none)
    (base : Memory) :
    (m.extendedBy base).readAll addresses = m.readAll addresses := by
  induction addresses with
  | nil => rfl
  | cons address rest ih =>
    rw [readAll_cons] at h
    by_cases hin : m.InBounds address
    · rw [if_pos hin] at h
      have hbyte := read_extendedBy hin base
      rw [read_eq_getD hin, read_eq_getD (hin.extendedBy base)] at hbyte
      rw [readAll_cons, readAll_cons, if_pos hin, if_pos (hin.extendedBy base), ih h,
        Except.ok.inj hbyte]
    · rw [if_neg hin] at h
      cases h

end Memory

end ChipEight
