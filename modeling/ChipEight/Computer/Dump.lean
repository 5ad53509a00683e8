import ChipEight.Computer.Basic
import ChipEight.Files.Directory

/-!
# The state dump

A text that shows everything a program can see: the registers, the part of the stack in use, the
last fault if there is one, and **every byte of the memory**, thirty-two to a row behind the row's
addresses. The last row is short, and without a line's end, when the memory ends inside it.

Making a dump changes nothing. The word at the program counter is fetched for it, but a fetch that
faults only leaves a remark in the dump.
-/

namespace ChipEight.Computer

/-- The bytes of one row. -/
def dumpRowSize : Nat := 32

/-- One row of the memory, behind its addresses. -/
def dumpRow (start : Nat) (row : List UInt8) : String :=
  let ending := if row.length = dumpRowSize then "\n" else ""
  s!"0x{Hex.padded 3 start} - 0x{Hex.padded 3 (start + 31)}:  "
    ++ String.join (row.map Hex.byte) ++ ending

/-- The memory from address `start` on, row by row. -/
def dumpRows (start : Nat) (bytes : List UInt8) : List String :=
  if bytes = [] then [] else
    dumpRow start (bytes.take dumpRowSize)
      :: dumpRows (start + dumpRowSize) (bytes.drop dumpRowSize)
termination_by bytes.length
decreasing_by
  have : bytes.length ≠ 0 := fun h ↦ ‹¬bytes = []› (List.eq_nil_of_length_eq_zero h)
  simp only [List.length_drop, dumpRowSize]
  omega

/-- The byte registers, four to a line. -/
def dumpBytes (r : Registers) : String :=
  String.join <| (List.finRange 16).map fun k ↦
    let ending := if k.val % 4 = 3 then "\n" else "\t"
    s!"V{Hex.plain k.val}: 0x{Hex.byte (r.v.get k)}" ++ ending

/-- The slots in use, at most all sixteen. -/
def usedSlots (r : Registers) : List UInt16 :=
  (r.stack.toList.drop 1).take (min r.sp stackDepth).toNat

/-- The dump. -/
def dump (c : Computer) : String :=
  let r := c.registers
  let word := match c.fetch with
    | .ok opcode => s!"0x{Hex.padded 4 opcode}"
    | .error _ => "out of bounds"
  let slots := (usedSlots r).map fun slot ↦ "0x" ++ Hex.padded 3 slot.toNat
  let fault := match c.lastFault with
    | some f => s!"fault: {f.text}" ++ "\n"
    | none => ""
  s!"PC: 0x{Hex.padded 3 r.pc}" ++ "\n"
    ++ s!"Next instr.: {word}" ++ "\n"
    ++ s!"I: 0x{Hex.padded 3 r.i}" ++ "\n"
    ++ dumpBytes r
    ++ s!"delay register: 0x{Hex.plain r.delay}" ++ "\n"
    ++ s!"sound register: 0x{Hex.plain r.sound}" ++ "\n"
    ++ s!"SP: 0x{Hex.plain r.sp}" ++ "\n"
    ++ "stack: [" ++ String.intercalate ", " slots ++ "]\n"
    ++ fault
    ++ "\n\nRAM:\n"
    ++ String.join (dumpRows 0 c.memory.cells.toList)

/-- The file that a dump goes to when no other is named. -/
def dumpName : String := "debug.txt"

/-- Writes the dump to a file. -/
def saveDump (c : Computer) (d : Directory) (name : String) : Except FileError Directory :=
  d.write name c.dump.toUTF8.toList

end ChipEight.Computer
