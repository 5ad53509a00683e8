import ChipEight.Text.Blank
import ChipEight.Text.DecimalDigit

/-!
# Whole numbers as users write them

A whole number in a given base: **blanks around it, one sign before it, and single underscores
between its digits** are accepted. A digit is a decimal digit of any script or, for bases above ten,
a Latin letter in either case. There is no prefix that announces the base.
-/

namespace ChipEight.Numeral

/-- The value of a digit, letters counting on from ten. -/
def digitValue? (c : Char) : Option Nat :=
  match decimalValue? c with
  | some d => some d
  | none =>
    if 'a' ≤ c ∧ c ≤ 'z' then some (c.toNat - 87)
    else if 'A' ≤ c ∧ c ≤ 'Z' then some (c.toNat - 55)
    else none

/-- The digit's value, if it is one in the base. -/
def digit? (base : Nat) (c : Char) : Option Nat := (digitValue? c).filter (· < base)

/-- The values of a run of digits. A single underscore may stand before any digit but the first. -/
def digits? (base : Nat) : List Char → Option (List Nat)
  | [] => none
  | [c] => (digit? base c).map fun d ↦ [d]
  | c :: '_' :: rest => do
    let d ← digit? base c
    let ds ← digits? base rest
    return d :: ds
  | c :: rest => do
    let d ← digit? base c
    let ds ← digits? base rest
    return d :: ds

/-- The number that digits stand for, the most significant first. -/
def ofDigits (base : Nat) (ds : List Nat) : Nat := ds.foldl (fun n d ↦ n * base + d) 0

/-- Reads a whole number. -/
def read? (base : Nat) (cs : List Char) : Option Int :=
  match trimBlanks cs with
  | '-' :: rest => (digits? base rest).map fun ds ↦ -(ofDigits base ds : Int)
  | '+' :: rest => (digits? base rest).map fun ds ↦ (ofDigits base ds : Int)
  | rest => (digits? base rest).map fun ds ↦ (ofDigits base ds : Int)

/-- The longest decimal numeral that is still read, in digits. -/
def decimalLimit : Nat := 4300

/-- Reads a decimal whole number of bearable length. -/
def decimal? (s : String) : Option Int :=
  if decimalLimit < (s.toList.filter fun c ↦ (digit? 10 c).isSome).length then none
  else read? 10 s.toList

end ChipEight.Numeral
