import ChipEight.Registers

/-!
# The register overlay

Four lines that show the machine at a glance: the last opcode and the program counter (with a remark
while the machine waits for a key), the stack pointer and the address register, the two countdown
registers, and the sixteen byte registers. They are drawn over the screen while the overlay is on
and written to the log after every instruction at the most talkative level.
-/

namespace ChipEight.Registers

/-- The lines of the overlay. -/
def overlayLines (r : Registers) (lastOpcode : Int) (waiting : Bool) : List String :=
  let remark := if waiting then " - WAITING FOR INPUT" else ""
  let bytes := r.v.toList.map fun b ↦ "0x" ++ Hex.plain b.toNat
  [s!"Op: 0x{Hex.padded 4 lastOpcode}, PC: 0x{Hex.padded 3 r.pc}" ++ remark,
    s!"SP: 0x{Hex.plain r.sp}, I: 0x{Hex.padded 3 r.i}",
    s!"DT: 0x{Hex.plain r.delay}, ST: 0x{Hex.plain r.sound}",
    "V: " ++ String.intercalate ", " bytes]

/-- The overlay as one text. -/
def overlay (r : Registers) (lastOpcode : Int) (waiting : Bool) : String :=
  String.intercalate "\n" (r.overlayLines lastOpcode waiting)

end ChipEight.Registers
