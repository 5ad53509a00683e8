import ChipEight.Text.Printable

/-!
# Quoted text

How a name is shown inside a message: between apostrophes, or **between double quotes if it holds an
apostrophe and no double quote**. Backslashes and the quote itself are escaped, line ends and
tabulators have escapes of their own, and any other character that does not show itself is written
by its code point in two, four or eight digits.
-/

namespace ChipEight.Quoted

/-- The quote that a text is put between. -/
def quoteFor (cs : List Char) : Char := if cs.contains '\'' && !cs.contains '"' then '"' else '\''

/-- A code point in `width` small hexadecimal digits. -/
def codePoint (width n : Nat) : List Char :=
  (List.range width).map fun k ↦
    let d := n >>> (4 * (width - 1 - k)) % 16
    if d < 10 then Char.ofNat (48 + d) else Char.ofNat (87 + d)

/-- One character between quotes. -/
def escape (quote c : Char) : List Char :=
  if c = quote ∨ c = '\\' then ['\\', c]
  else if c = '\n' then ['\\', 'n']
  else if c = '\r' then ['\\', 'r']
  else if c = '\t' then ['\\', 't']
  else if isPrintable c then [c]
  else if c.toNat < 0x100 then '\\' :: 'x' :: codePoint 2 c.toNat
  else if c.toNat < 0x10000 then '\\' :: 'u' :: codePoint 4 c.toNat
  else '\\' :: 'U' :: codePoint 8 c.toNat

/-- The text between quotes. -/
def quote (s : String) : String :=
  let cs := s.toList
  let q := quoteFor cs
  String.ofList (q :: cs.flatMap (escape q) ++ [q])

end ChipEight.Quoted
