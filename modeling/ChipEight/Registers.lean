import ChipEight.HostError
import ChipEight.Table
import ChipEight.Text.Hex

/-!
# The register file

Sixteen byte registers, the address register `I`, the program counter, the stack with its pointer,
and the two countdown registers. The last byte register, `VF`, is written by arithmetic as a flag.

**Slot 0 of the stack never holds a return address.** A call moves the pointer up before it stores,
so slots 1 to 16 are in use and slot 0 is only read by a return on an empty stack. After that return
the pointer stands at 255, and no slot can be reached any more.

The byte registers and the slots are words of their width. The other registers are whole numbers
that the machine itself keeps within their ranges; from outside they can be set to anything.
-/

namespace ChipEight

/-- The number of a byte register. -/
abbrev Reg := Fin 16

/-- The register that a jump can be relative to. -/
def firstReg : Reg := ⟨0, by decide⟩

/-- The register that arithmetic and drawing use as a flag. -/
def flagReg : Reg := ⟨15, by decide⟩

/-- The number of return addresses the stack has room for. -/
def stackDepth : Nat := 16

/-- A number reduced to sixteen bits, as a program counter or an address register wraps. -/
def wrap16 (z : Int) : Int := z % 65536

theorem wrap16_nonneg (z : Int) : 0 ≤ wrap16 z := Int.emod_nonneg z (by decide)

theorem wrap16_lt (z : Int) : wrap16 z < 65536 := Int.emod_lt_of_pos z (by decide)

/-- The register file. -/
structure Registers where
  v : Vector UInt8 16
  i : Int
  pc : Int
  sp : Int
  stack : Vector UInt16 17
  delay : Int
  sound : Int
  deriving DecidableEq, Repr

namespace Registers

/-- Every register zero, and the program counter where the program begins. -/
def initial (pc : Int) : Registers where
  v := Vector.replicate 16 0
  i := 0
  pc := pc
  sp := 0
  stack := Vector.replicate 17 0
  delay := 0
  sound := 0

instance : Inhabited Registers := ⟨initial 0⟩

/-! ### Byte registers -/

/-- A byte register changed. -/
def setV (r : Registers) (x : Reg) (value : UInt8) : Registers := { r with v := setAt r.v x value }

/-- The registers `V0, V1, …` set to the given bytes, as many as there are. -/
def setFirst (r : Registers) (bytes : List UInt8) : Registers :=
  { r with v := Vector.ofFn fun k ↦ bytes.getD k (r.v.get k) }

/-- A byte, if the number fits one. -/
def byte? (z : Int) : Option UInt8 := if 0 ≤ z ∧ z < 256 then some (UInt8.ofInt z) else none

/-- A sixteen-bit word, if the number fits one. -/
def word? (z : Int) : Option UInt16 := if 0 ≤ z ∧ z < 65536 then some (UInt16.ofInt z) else none

/-! ### The program counter -/

/-- The program counter moved on to the next instruction. -/
def next (r : Registers) : Registers := { r with pc := wrap16 (r.pc + 2) }

/-- The program counter set. -/
def jump (r : Registers) (pc : Int) : Registers := { r with pc := pc }

/-! ### The stack -/

/-- Sets a stack slot from outside, by signed position. -/
def pokeSlot (r : Registers) (position value : Int) : Except HostError Registers :=
  match signedIndex? 17 position with
  | none => .error .badIndex
  | some k =>
    match word? value with
    | none => .error .outOfRange
    | some w => .ok { r with stack := setAt r.stack k w }

/-! ### The countdown registers -/

/-- Both countdown registers lowered by one, but not below zero. -/
def countDown (r : Registers) : Registers :=
  { r with
    delay := if 0 < r.delay then r.delay - 1 else r.delay
    sound := if 0 < r.sound then r.sound - 1 else r.sound }

/-! ### Laws -/

@[simp] theorem v_setV (r : Registers) (x y : Reg) (value : UInt8) :
    (r.setV x value).v.get y = if x = y then value else r.v.get y :=
  get_setAt r.v x y value

@[simp] theorem v_next (r : Registers) : r.next.v = r.v := rfl

end Registers

end ChipEight
