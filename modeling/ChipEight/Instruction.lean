import ChipEight.Registers

/-!
# Instructions

A word of sixteen bits is read by its four hexadecimal digits. The first digit picks the family; in
the families `0`, `8`, `E` and `F` the last digit or the last two pick the instruction. **What a
family does not look at is not checked**: `5xy0` and `9xy0` are accepted with any last digit, and
`00E0` and `00EE` with any second digit.

`decode` is total into `Option`. Three families are full, so only words of the families `8`, `E` and
`F` can fail to be instructions.
-/

namespace ChipEight

/-- What a skip instruction asks. -/
inductive Condition where
  | equalsByte (x : Reg) (k : UInt8)
  | differsFromByte (x : Reg) (k : UInt8)
  | equals (x y : Reg)
  | differs (x y : Reg)
  | keyDown (x : Reg)
  | keyUp (x : Reg)
  deriving DecidableEq, Repr

/-- What is done to two byte registers; the result goes to the first. -/
inductive Arithmetic where
  | copy
  | or
  | and
  | xor
  | add
  | sub
  | shiftRight
  /-- The second operand less the first. -/
  | subFrom
  | shiftLeft
  deriving DecidableEq, Repr

/-- An address as it stands in an instruction: twelve bits. -/
abbrev Target := Fin 4096

/-- An instruction. -/
inductive Instruction where
  | clearScreen
  | ret
  /-- A call of the first machines' own code, which is passed over. -/
  | sys
  | jump (target : Target)
  | call (target : Target)
  | skip (condition : Condition)
  | setByte (x : Reg) (k : UInt8)
  | addByte (x : Reg) (k : UInt8)
  | arithmetic (a : Arithmetic) (x y : Reg)
  | setI (target : Target)
  | jumpPlusV0 (target : Target)
  | random (x : Reg) (mask : UInt8)
  | draw (x y : Reg) (rows : Fin 16)
  | getDelay (x : Reg)
  | awaitKey (x : Reg)
  | setDelay (x : Reg)
  | setSound (x : Reg)
  | addToI (x : Reg)
  | fontSprite (x : Reg)
  | storeDigits (x : Reg)
  | storeRegisters (x : Reg)
  | loadRegisters (x : Reg)
  deriving DecidableEq, Repr

namespace Arithmetic

/-- The operation that the last digit of an `8xyN` word picks. -/
def ofDigit? : Nat → Option Arithmetic
  | 0x0 => some copy
  | 0x1 => some or
  | 0x2 => some and
  | 0x3 => some xor
  | 0x4 => some add
  | 0x5 => some sub
  | 0x6 => some shiftRight
  | 0x7 => some subFrom
  | 0xE => some shiftLeft
  | _ => none

/-- The result for the operands `a` and `b`, wrapping at eight bits. -/
def result : Arithmetic → UInt8 → UInt8 → UInt8
  | copy, _, b => b
  | or, a, b => a ||| b
  | and, a, b => a &&& b
  | xor, a, b => a ^^^ b
  | add, a, b => a + b
  | sub, a, b => a - b
  | shiftRight, a, _ => a >>> 1
  | subFrom, a, b => b - a
  | shiftLeft, a, _ => a <<< 1

/-- The flag for the operands `a` and `b`, if the operation has one: the carry of a sum, the missing
borrow of a difference, the bit that a shift pushes out. **The borrow is judged strictly**: equal
operands leave the flag at zero. -/
def flag? : Arithmetic → UInt8 → UInt8 → Option Bool
  | copy, _, _ => none
  | or, _, _ => none
  | and, _, _ => none
  | xor, _, _ => none
  | add, a, b => some (decide (255 < a.toNat + b.toNat))
  | sub, a, b => some (decide (b < a))
  | shiftRight, a, _ => some (decide (a.toNat % 2 = 1))
  | subFrom, a, b => some (decide (a < b))
  | shiftLeft, a, _ => some (decide (128 ≤ a.toNat))

end Arithmetic

namespace Instruction

/-- The instructions of family `0`, by their last two digits. -/
def ofSystemByte (low : Nat) : Instruction :=
  if low = 0xE0 then clearScreen else if low = 0xEE then ret else sys

/-- The instructions of family `E`, by their last two digits. -/
def ofKeyByte? (x : Reg) (low : Nat) : Option Instruction :=
  if low = 0x9E then some (skip (.keyDown x))
  else if low = 0xA1 then some (skip (.keyUp x))
  else none

/-- The instructions of family `F`, by their last two digits. -/
def ofMiscByte? (x : Reg) : Nat → Option Instruction
  | 0x07 => some (getDelay x)
  | 0x0A => some (awaitKey x)
  | 0x15 => some (setDelay x)
  | 0x18 => some (setSound x)
  | 0x1E => some (addToI x)
  | 0x29 => some (fontSprite x)
  | 0x33 => some (storeDigits x)
  | 0x55 => some (storeRegisters x)
  | 0x65 => some (loadRegisters x)
  | _ => none

/-- The last digit of a number. -/
def lastDigit (n : Nat) : Fin 16 := ⟨n % 16, Nat.mod_lt n (by decide)⟩

/-- The address in the last three digits of a word. -/
def targetOf (w : Nat) : Target := ⟨w % 4096, Nat.mod_lt w (by decide)⟩

/-- The instruction that a word stands for. Only the low sixteen bits are looked at. -/
def decode (w : Nat) : Option Instruction :=
  let x : Reg := lastDigit (w / 0x100)
  let y : Reg := lastDigit (w / 0x10)
  let n := lastDigit w
  let k : UInt8 := UInt8.ofNat w
  let target := targetOf w
  match w / 0x1000 % 16 with
  | 0x0 => some (ofSystemByte (w % 0x100))
  | 0x1 => some (jump target)
  | 0x2 => some (call target)
  | 0x3 => some (skip (.equalsByte x k))
  | 0x4 => some (skip (.differsFromByte x k))
  | 0x5 => some (skip (.equals x y))
  | 0x6 => some (setByte x k)
  | 0x7 => some (addByte x k)
  | 0x8 => (Arithmetic.ofDigit? (w % 16)).map fun a ↦ arithmetic a x y
  | 0x9 => some (skip (.differs x y))
  | 0xA => some (setI target)
  | 0xB => some (jumpPlusV0 target)
  | 0xC => some (random x k)
  | 0xD => some (draw x y n)
  | 0xE => ofKeyByte? x (w % 0x100)
  | _ => ofMiscByte? x (w % 0x100)

end Instruction

end ChipEight
