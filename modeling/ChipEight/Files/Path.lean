import ChipEight.Text.Split

/-!
# Paths

A path is read once and written in a normal form: empty parts and parts that are a single dot are
left out, `..` is kept, and a path of no parts is the dot. Two slashes at the beginning, and no
more, are an anchor of their own.
-/

namespace ChipEight

/-- A path: what it is anchored at, and its parts. -/
structure Path where
  /-- Nothing for a path from the working directory, else one slash or two. -/
  anchor : String
  parts : List String
  deriving DecidableEq, Repr, Inhabited

namespace Path

/-- What stands between the slashes, as far as something does. -/
def piecesOf (cs : List Char) : List String :=
  ((splitAt '/' cs).map String.ofList).filter (· != "")

/-- The pieces that count. -/
def partsOf (cs : List Char) : List String := (piecesOf cs).filter (· != ".")

/-- The anchor, by the number of slashes at the beginning. -/
def anchorOf (cs : List Char) : String :=
  match (cs.takeWhile (· == '/')).length with
  | 0 => ""
  | 2 => "//"
  | _ => "/"

/-- Reads a path. -/
def ofString (s : String) : Path := ⟨anchorOf s.toList, partsOf s.toList⟩

/-- Writes a path in its normal form. -/
def text (p : Path) : String :=
  if p.anchor = "" ∧ p.parts = [] then "." else p.anchor ++ String.intercalate "/" p.parts

end Path

end ChipEight
