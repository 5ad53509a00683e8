import ChipEight.HostError
import ChipEight.Number.Binary64

/-!
# Quotients that the host accepts

The host divides whole numbers into binary64 numbers and rounds those back to whole numbers, and it
insists on numbers: **neither a quotient nor a rounding may leave the range**. So an infinity never
comes out of a division; only a difference or a product can be one, and it is found out when it is
rounded.
-/

namespace ChipEight

/-- The quotient of two whole numbers, rounded once. -/
def quotient (n d : Int) : Except HostError Binary64 :=
  if d = 0 then .error .divisionByZero
  else
    let q := Binary64.ofRatio n d
    if q.isFinite then .ok q else .error .outOfRange

/-- The nearest whole number to a binary64 number, a half going to the even neighbour. -/
def nearestInt (x : Binary64) : Except HostError Int :=
  match x.toNearestInt? with
  | some z => .ok z
  | none => .error .outOfRange

end ChipEight
