/-!
# Hexadecimal text

Capital hexadecimal numbers as the machine's reports print them: **at least** a given number of
characters, filled up with zeros on the left, never cut. A negative number carries its sign in front
of the zeros, and the sign counts as one of the characters.

`value?_digit` says that a digit reads back as its value, so a number is recovered from its text.
-/

namespace ChipEight.Hex

/-- The capital digit of a value below sixteen. -/
def digit (d : Nat) : Char :=
  if d < 10 then Char.ofNat (48 + d) else Char.ofNat (55 + d)

/-- The value of a hexadecimal digit, in either case. -/
def value? (c : Char) : Option Nat :=
  if '0' ≤ c ∧ c ≤ '9' then some (c.toNat - 48)
  else if 'A' ≤ c ∧ c ≤ 'F' then some (c.toNat - 55)
  else if 'a' ≤ c ∧ c ≤ 'f' then some (c.toNat - 87)
  else none

theorem value?_digit : ∀ d < 16, value? (digit d) = some d := by decide

/-- The digits of a number, the most significant first; zero is the single digit `0`. -/
def digits (n : Nat) : List Char :=
  if n < 16 then [digit n] else digits (n / 16) ++ [digit (n % 16)]

/-- A whole number in at least `width` characters. -/
def padded (width : Nat) (z : Int) : String :=
  let sign := if z < 0 then ['-'] else []
  let body := digits z.natAbs
  String.ofList (sign ++ List.replicate (width - sign.length - body.length) '0' ++ body)

/-- A whole number in as few characters as it needs. -/
def plain (z : Int) : String := padded 0 z

/-- A byte in two digits. -/
def byte (b : UInt8) : String := padded 2 b.toNat

end ChipEight.Hex
