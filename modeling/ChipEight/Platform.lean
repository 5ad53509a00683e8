/-!
# The two platforms

The machine was built twice: the standard one with 4096 bytes of memory, and the ETI 660 with half
as much, where programs are loaded higher up. Nothing else tells them apart.
-/

namespace ChipEight

/-- Which machine a program is written for. -/
inductive Platform where
  | standard
  | eti660
  deriving DecidableEq, Repr, Inhabited

namespace Platform

/-- How many bytes of memory there are. -/
def memorySize : Platform → Nat
  | .standard => 4096
  | .eti660 => 2048

/-- Where programs are loaded and begin. -/
def programStart : Platform → Nat
  | .standard => 0x200
  | .eti660 => 0x600

/-- The platform as a load message names it. -/
def label : Platform → String
  | .standard => "Normal"
  | .eti660 => "ETI 660"

end Platform

end ChipEight
