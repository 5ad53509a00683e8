import ChipEight.Fault
import ChipEight.HostError

/-!
# Memory

A bank of bytes of fixed capacity. **Every access is checked**: an address below zero or at the
capacity or above is a fault, and neither wraps nor counts from the end. A capacity below zero gives
a bank without bytes.

Runs of accesses (loading a program, storing and reading back registers, drawing a sprite) stop at
the first address that faults and keep what was done before it. `writeAll` and `readAll` are those
runs; each answers what it did *and* what stopped it. A load is such a run over consecutive
addresses, and it counts what it has written.
-/

namespace ChipEight

/-- A bank of bytes. -/
structure Memory where
  /-- The capacity it was made with; below zero there are no bytes. -/
  capacity : Int
  cells : Array UInt8
  size_cells : cells.size = capacity.toNat

namespace Memory

@[ext] theorem ext {m m' : Memory} (hc : m.capacity = m'.capacity) (hs : m.cells = m'.cells) :
    m = m' := by
  cases m; cases m'; cases hc; cases hs; rfl

/-- A bank of the given capacity, all zero. -/
def blank (capacity : Int) : Memory where
  capacity := capacity
  cells := Array.replicate capacity.toNat 0
  size_cells := Array.size_replicate

instance : Inhabited Memory := ⟨blank 0⟩

/-- The address is one of the bank's own. -/
def InBounds (m : Memory) (address : Int) : Prop := 0 ≤ address ∧ address < m.capacity

instance (m : Memory) (address : Int) : Decidable (m.InBounds address) :=
  inferInstanceAs (Decidable (_ ∧ _))

/-- The fault that an access to the address is. -/
def faultAt (m : Memory) (address : Int) : Fault.Cause := .outOfBounds address m.capacity

/-- The byte at an address. -/
def read (m : Memory) (address : Int) : Except Fault.Cause UInt8 :=
  if h : m.InBounds address then
    have bound : address.toNat < m.cells.size := by
      have := m.size_cells
      obtain ⟨h0, h1⟩ := h
      omega
    .ok m.cells[address.toNat]
  else .error (m.faultAt address)

/-- The bank with another byte at an address of its own. -/
def set (m : Memory) (address : Int) (byte : UInt8) : Memory :=
  { m with
    cells := m.cells.setIfInBounds address.toNat byte
    size_cells := by rw [Array.size_setIfInBounds, m.size_cells] }

/-- Puts a byte at an address. -/
def store (m : Memory) (address : Int) (byte : UInt8) : Except Fault.Cause Memory :=
  if m.InBounds address then .ok (m.set address byte) else .error (m.faultAt address)

/-- Writes the low eight bits of a number. -/
def write (m : Memory) (address value : Int) : Except Fault.Cause Memory :=
  m.store address (UInt8.ofInt value)

/-- The bank with every byte zero again. -/
def clear (m : Memory) : Memory := blank m.capacity

/-- How many bytes the bank says that it has, which is **its capacity and not a count of them**: of
a bank made with a capacity below zero it is no length at all. -/
def length (m : Memory) : Except HostError Nat :=
  if m.capacity < 0 then .error .negativeLength else .ok m.capacity.toNat

/-! ### Runs of accesses -/

/-- Stores bytes one after another, up to the first address that faults. -/
def writeAll (m : Memory) : List (Int × UInt8) → Memory × Option Fault.Cause
  | [] => (m, none)
  | (address, byte) :: rest =>
    if m.InBounds address then (m.set address byte).writeAll rest
    else (m, some (m.faultAt address))

/-- Reads addresses one after another, up to the first that faults. -/
def readAll (m : Memory) : List Int → List UInt8 × Option Fault.Cause
  | [] => ([], none)
  | address :: rest =>
    match m.read address with
    | .ok byte =>
      let (bytes, cause) := m.readAll rest
      (byte :: bytes, cause)
    | .error cause => ([], some cause)

/-- Writes numbers one after another, up to the first that faults, and answers the address behind
the last one. -/
def writeFrom (m : Memory) (address : Int) : List Int → Memory × Except Fault.Cause Int
  | [] => (m, .ok address)
  | value :: rest =>
    match m.write address value with
    | .ok m' => m'.writeFrom (address + 1) rest
    | .error cause => (m, .error cause)

/-- Loads numbers, and answers over how many addresses they were written. -/
def loadNumbers (m : Memory) (start : Int) (values : List Int) :
    Memory × Except Fault.Cause Int :=
  let (loaded, reached) := m.writeFrom start values
  (loaded, reached.map (· - start))

/-- Loads bytes, where it does not matter how many they are. -/
def load (m : Memory) (start : Int) (bytes : List UInt8) : Memory × Option Fault.Cause :=
  let (loaded, count) := m.loadNumbers start (bytes.map fun byte ↦ byte.toNat)
  match count with
  | .ok _ => (loaded, none)
  | .error cause => (loaded, some cause)

/-! ### Laws -/

/-- The low eight bits of a number are its remainder. -/
theorem toNat_lowByte (value : Int) : ((UInt8.ofInt value).toNat : Int) = value % 256 := by
  rw [UInt8.ofInt, UInt8.toNat_ofNat']
  omega

/-- Those of a byte are the byte. -/
theorem lowByte_toNat (byte : UInt8) : UInt8.ofInt byte.toNat = byte := by
  have hsame := toNat_lowByte byte.toNat
  have hlt := byte.toNat_lt
  exact UInt8.toNat_inj.1 (by omega)

theorem read_eq_error {m : Memory} {address : Int} (h : ¬ m.InBounds address) :
    m.read address = .error (m.faultAt address) := by
  simp [read, h]

theorem store_eq_error {m : Memory} {address : Int} {byte : UInt8} (h : ¬ m.InBounds address) :
    m.store address byte = .error (m.faultAt address) := by
  simp [store, h]

/-- A store keeps the capacity. -/
theorem capacity_store {m m' : Memory} {address : Int} {byte : UInt8}
    (h : m.store address byte = .ok m') : m'.capacity = m.capacity := by
  unfold store at h
  split at h
  · cases h; rfl
  · exact nomatch h

/-- A run of stores keeps the capacity, whether it faults or not. -/
theorem capacity_writeAll (m : Memory) (run : List (Int × UInt8)) :
    (m.writeAll run).1.capacity = m.capacity := by
  induction run generalizing m with
  | nil => rfl
  | cons entry rest ih =>
    rw [writeAll]
    split
    · rw [ih]
      rfl
    · rfl

end Memory

end ChipEight
