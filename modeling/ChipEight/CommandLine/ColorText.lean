import ChipEight.HostCall
import ChipEight.Text.Numeral

/-!
# Colors as users write them

A color is written as three hexadecimal numbers of **two characters each**, behind any number of
`#`. Each pair is read as a whole number by itself, so a pair may be a sign and a digit or a blank
and a digit; the components of a color are not confined to a byte.
-/

namespace ChipEight.Color

/-- What is said of a text that is no color. -/
def complaint : String := "expected a color like FFFFFF"

/-- The text without the marks in front of it. -/
def unmarked (s : String) : List Char := s.toList.dropWhile (· == '#')

/-- Reads a color. -/
def parse? (s : String) : Option Color :=
  match unmarked s with
  | [a, b, c, d, e, f] => do
    let red ← Numeral.read? 16 [a, b]
    let green ← Numeral.read? 16 [c, d]
    let blue ← Numeral.read? 16 [e, f]
    return { red, green, blue }
  | _ => none

end ChipEight.Color
