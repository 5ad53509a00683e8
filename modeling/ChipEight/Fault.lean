import ChipEight.Text.Hex

/-!
# Execution faults

A program that reads outside the memory, misuses the stack or runs into a word that is no
instruction causes a **fault**. A fault is a cause together with the place where it happened; the
place is known only when the fault came up while the machine was stepping, and the report then ends
with it.
-/

namespace ChipEight

namespace Fault

/-- Which family a fault belongs to. -/
inductive Kind where
  | memory
  | stack
  | decode
  /-- A fault of no particular family. -/
  | execution
  deriving DecidableEq, Repr, Inhabited

/-- What went wrong. -/
inductive Cause where
  /-- An access to an address that the memory does not have. -/
  | outOfBounds (address capacity : Int)
  /-- A return with the stack pointer beyond the last slot. -/
  | badReturn
  /-- A call with every stack slot in use. -/
  | noRoomForCall (target : Nat)
  /-- A word that is no instruction. -/
  | unknownOpcode (opcode : Int)
  /-- A fault of a known family, described by a text of its own. -/
  | described (kind : Kind) (text : String)
  deriving DecidableEq, Repr, Inhabited

/-- The family of a cause. -/
def Cause.kind : Cause → Kind
  | .outOfBounds .. => .memory
  | .badReturn => .stack
  | .noRoomForCall _ => .stack
  | .unknownOpcode _ => .decode
  | .described kind _ => kind

/-- The cause in words. -/
def Cause.message : Cause → String
  | .outOfBounds address capacity =>
    s!"Memory access out of bounds: 0x{Hex.plain address} (capacity 0x{Hex.plain capacity})"
  | .badReturn => "Invalid SP for RET instruction"
  | .noRoomForCall target => s!"No room on the stack for CALL 0x{Hex.padded 3 target}"
  | .unknownOpcode opcode => s!"Unknown opcode: 0x{Hex.padded 4 opcode}"
  | .described _ text => text

/-- Where the machine stood. The opcode is missing when it was the fetch that faulted. -/
structure Context where
  pc : Int
  sp : Int
  i : Int
  opcode : Option Int
  deriving DecidableEq, Repr, Inhabited

/-- The place in words, as it stands behind the cause. -/
def Context.text (place : Context) : String :=
  let opcode := match place.opcode with
    | none => "----"
    | some opcode => Hex.padded 4 opcode
  s!" (opcode: 0x{opcode}, PC: 0x{Hex.padded 3 place.pc}, SP: 0x{Hex.plain place.sp}, "
    ++ s!"I: 0x{Hex.padded 3 place.i})"

end Fault

/-- A fault: its cause, and the place where it happened if that is known. -/
structure Fault where
  cause : Fault.Cause
  context : Option Fault.Context := none
  deriving DecidableEq, Repr, Inhabited

namespace Fault

/-- The fault as it is reported. -/
def text (f : Fault) : String :=
  match f.context with
  | none => f.cause.message
  | some place => f.cause.message ++ place.text

/-- The fault, moved to another place. -/
def atContext (f : Fault) (place : Option Context) : Fault := { f with context := place }

end Fault

end ChipEight
