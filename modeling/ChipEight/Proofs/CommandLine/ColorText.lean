import ChipEight.CommandLine.ColorText
import ChipEight.Text.Hex
import Mathlib.Data.List.Basic

/-!
# What is taken for a color

A color is meant to be six hexadecimal digits, two for each component; `Color.ofHex?` reads it so.
**More than that is taken for one.** A pair of characters is read as a whole number by itself, and a
whole number of two characters may be a sign with a digit behind it or a digit beside a blank, and
its digits may be those of any script (`Numeral.PairStandsFor`).

`parse?_eq_ofHex?_iff` says for every text what is read from it, and that it is read as six
hexadecimal digits should be exactly if it has no such pair. From one that has (`not_only_hex`)
comes a color with components below zero.
-/

namespace ChipEight

namespace Numeral

variable {a b c : Char} {d : Nat} {z : Int}

/-! ### Digits and blanks -/

/-- A hexadecimal digit is a digit of a whole number. -/
theorem digit?_of_value? (h : Hex.value? c = some d) : digit? 16 c = some d := by
  have hsmall : c.toNat < 103 := by
    have hle (x : Char) : c ≤ x → c.toNat ≤ x.toNat := id
    rw [Hex.value?] at h
    split at h
    · exact Nat.lt_of_le_of_lt (hle '9' (And.right ‹_›)) (by decide)
    · split at h
      · exact Nat.lt_of_le_of_lt (hle 'F' (And.right ‹_›)) (by decide)
      · split at h
        · exact Nat.lt_of_le_of_lt (hle 'f' (And.right ‹_›)) (by decide)
        · exact nomatch h
  have hsame : ∀ n < 103, (Hex.value? (Char.ofNat n)).isSome →
      digit? 16 (Char.ofNat n) = Hex.value? (Char.ofNat n) := by decide
  have hc := hsame c.toNat hsmall
  rw [Char.ofNat_toNat, h] at hc
  exact hc rfl

/-- All blanks. -/
def blanks : List Nat :=
  List.range' 0x9 5 ++ (List.range' 0x2000 11 ++
    [0x20, 0x85, 0xA0, 0x1680, 0x2028, 0x2029, 0x202F, 0x205F, 0x3000])

/-- A digit is not a blank. -/
theorem isBlank_of_digit? (h : digit? 16 c = some d) : isBlank c = false := by
  by_contra hblank
  have hmem : c.toNat ∈ blanks := by
    simp only [isBlank, Bool.not_eq_false, Bool.or_eq_true, Bool.and_eq_true, decide_eq_true_eq,
      beq_iff_eq] at hblank
    simp only [blanks, List.mem_append, List.mem_range'_1, List.mem_cons, List.not_mem_nil,
      or_false]
    omega
  have hnone : ∀ n ∈ blanks, digit? 16 (Char.ofNat n) = none := by decide
  have hc := hnone c.toNat hmem
  rw [Char.ofNat_toNat, h] at hc
  exact nomatch hc

/-! ### Pairs -/

/-- What a pair of characters stands for as a whole number in base sixteen. -/
inductive PairStandsFor (a b : Char) : Int → Prop
  | digits {high low : Nat} : digit? 16 a = some high → digit? 16 b = some low →
      PairStandsFor a b (16 * high + low)
  | plus {d : Nat} : a = '+' → digit? 16 b = some d → PairStandsFor a b d
  | minus {d : Nat} : a = '-' → digit? 16 b = some d → PairStandsFor a b (-d)
  | behindBlank {d : Nat} : isBlank a = true → digit? 16 b = some d → PairStandsFor a b d
  | beforeBlank {d : Nat} : digit? 16 a = some d → isBlank b = true → PairStandsFor a b d

theorem trimBlanks_pair (a b : Char) :
    trimBlanks [a, b] =
      if isBlank a then if isBlank b then [] else [b] else if isBlank b then [a] else [a, b] := by
  rcases ha : isBlank a with - | -
  · rcases hb : isBlank b with - | -
    · simp [trimBlanks, ha, hb]
    · simp [trimBlanks, ha, hb]
  · rcases hb : isBlank b with - | -
    · simp [trimBlanks, ha, hb]
    · simp [trimBlanks, ha, hb]

theorem digits?_single (c : Char) : digits? 16 [c] = (digit? 16 c).map fun d ↦ [d] := rfl

theorem digits?_pair (a b : Char) :
    digits? 16 [a, b] = do
      let high ← digit? 16 a
      let low ← digit? 16 b
      return [high, low] := by
  by_cases hb : b = '_'
  · have hscore : digit? 16 '_' = none := by decide
    rw [hb, hscore]
    rcases h : digit? 16 a with - | high
    · simp [digits?, h]
    · simp [digits?, h]
  · rw [digits?, digits?_single]
    · rcases digit? 16 b with - | low
      · rfl
      · rfl
    · exact fun h ↦ nomatch h
    · exact fun rest h ↦ hb (List.cons.inj h).1

/-- A digit is not a sign. -/
theorem digit?_sign : digit? 16 '-' = none ∧ digit? 16 '+' = none := by decide

/-- What a single digit comes to, with or without a sign. -/
theorem map_digits?_single (c : Char) (sign : Int → Int) :
    ((digits? 16 [c]).map fun ds ↦ sign (ofDigits 16 ds : Int)) =
      (digit? 16 c).map fun d : Nat ↦ sign d := by
  rw [digits?_single, Option.map_map]
  congr 1
  funext d
  show sign (0 * 16 + d : Nat) = sign d
  rw [Nat.zero_mul, Nat.zero_add]

/-- What is read from a text of which one character is left between the blanks. -/
theorem read?_of_single {cs : List Char} (h : trimBlanks cs = [c]) :
    read? 16 cs = (digit? 16 c).map fun d : Nat ↦ (d : Int) := by
  rw [read?, h]
  split
  · rename_i hcs
    obtain ⟨rfl, rfl⟩ := List.cons.inj hcs
    rw [digit?_sign.1]
    rfl
  · rename_i hcs
    obtain ⟨rfl, rfl⟩ := List.cons.inj hcs
    rw [digit?_sign.2]
    rfl
  · exact map_digits?_single c id

/-- What is read from a pair without blanks. -/
theorem read?_of_pair (h : trimBlanks [a, b] = [a, b]) :
    read? 16 [a, b] =
      if a = '-' then (digit? 16 b).map fun d : Nat ↦ -(d : Int)
      else if a = '+' then (digit? 16 b).map fun d : Nat ↦ (d : Int)
      else do
        let high ← digit? 16 a
        let low ← digit? 16 b
        return 16 * (high : Int) + low := by
  rw [read?, h]
  split
  · rename_i hcs
    obtain ⟨rfl, rfl⟩ := List.cons.inj hcs
    rw [if_pos rfl]
    exact map_digits?_single b (- ·)
  · rename_i hcs
    obtain ⟨rfl, rfl⟩ := List.cons.inj hcs
    rw [if_neg (by decide), if_pos rfl]
    exact map_digits?_single b id
  · rename_i hminus hplus
    rw [if_neg fun ha ↦ hminus [b] (by rw [ha]), if_neg fun ha ↦ hplus [b] (by rw [ha]),
      digits?_pair]
    rcases digit? 16 a with - | high
    · rfl
    · rcases digit? 16 b with - | low
      · rfl
      · simp [ofDigits, Int.mul_comm]

/-- **What is read from a pair.** -/
theorem read?_pair_eq_some_iff : read? 16 [a, b] = some z ↔ PairStandsFor a b z := by
  constructor
  · intro h
    have htrim := trimBlanks_pair a b
    rcases ha : isBlank a with - | -
    · rcases hb : isBlank b with - | -
      · rw [ha, hb] at htrim
        rw [read?_of_pair htrim] at h
        split at h
        · obtain ⟨d, hd, rfl⟩ := Option.map_eq_some_iff.1 h
          exact .minus ‹_› hd
        · split at h
          · obtain ⟨d, hd, rfl⟩ := Option.map_eq_some_iff.1 h
            exact .plus ‹_› hd
          · simp only [Option.bind_eq_bind, Option.bind_eq_some_iff, Option.pure_def,
              Option.some.injEq] at h
            obtain ⟨high, hhigh, low, hlow, rfl⟩ := h
            exact .digits hhigh hlow
      · rw [ha, hb] at htrim
        rw [read?_of_single htrim] at h
        obtain ⟨d, hd, rfl⟩ := Option.map_eq_some_iff.1 h
        exact .beforeBlank hd hb
    · rcases hb : isBlank b with - | -
      · rw [ha, hb] at htrim
        rw [read?_of_single htrim] at h
        obtain ⟨d, hd, rfl⟩ := Option.map_eq_some_iff.1 h
        exact .behindBlank ha hd
      · rw [ha, hb] at htrim
        rw [read?, htrim] at h
        exact nomatch h
  · intro h
    have htrim := trimBlanks_pair a b
    rcases h with ⟨ha, hb⟩ | ⟨rfl, hb⟩ | ⟨rfl, hb⟩ | ⟨ha, hb⟩ | ⟨ha, hb⟩
    · rw [isBlank_of_digit? ha, isBlank_of_digit? hb] at htrim
      rw [read?_of_pair htrim, if_neg, if_neg, ha, hb]
      · rfl
      · rintro rfl
        exact nomatch digit?_sign.2.symm.trans ha
      · rintro rfl
        exact nomatch digit?_sign.1.symm.trans ha
    · rw [isBlank_of_digit? hb] at htrim
      rw [read?_of_pair htrim, if_neg (by decide), if_pos rfl, hb]
      rfl
    · rw [isBlank_of_digit? hb] at htrim
      rw [read?_of_pair htrim, if_pos rfl, hb]
      rfl
    · rw [ha, isBlank_of_digit? hb] at htrim
      rw [read?_of_single htrim, hb]
      rfl
    · rw [isBlank_of_digit? ha, hb] at htrim
      rw [read?_of_single htrim, ha]
      rfl

theorem lt_of_digit? (h : digit? 16 c = some d) : d < 16 :=
  of_decide_eq_true (Option.filter_eq_some_iff.1 h).2

end Numeral

namespace Hex

/-- The number that two hexadecimal digits stand for. -/
def pair? (a b : Char) : Option Nat := do
  let high ← value? a
  let low ← value? b
  return 16 * high + low

theorem pair?_eq_some_iff {a b : Char} {n : Nat} :
    pair? a b = some n ↔
      ∃ high low, value? a = some high ∧ value? b = some low ∧ n = 16 * high + low := by
  simp only [pair?, Option.bind_eq_bind, Option.bind_eq_some_iff, Option.pure_def,
    Option.some.injEq]
  constructor
  · rintro ⟨high, hhigh, low, hlow, rfl⟩
    exact ⟨high, low, hhigh, hlow, rfl⟩
  · rintro ⟨high, low, hhigh, hlow, rfl⟩
    exact ⟨high, hhigh, low, hlow, rfl⟩

theorem isSome_pair?_iff {a b : Char} :
    (pair? a b).isSome ↔ (value? a).isSome ∧ (value? b).isSome := by
  rw [pair?]
  rcases value? a with - | high
  · simp
  · rcases value? b with - | low
    · simp
    · simp

/-- Two hexadecimal digits are a pair that stands for a byte. -/
theorem pairStandsFor_of_pair? {a b : Char} {n : Nat} (h : pair? a b = some n) :
    Numeral.PairStandsFor a b n ∧ n ≤ 255 := by
  obtain ⟨high, low, hhigh, hlow, rfl⟩ := pair?_eq_some_iff.1 h
  have hhigh' := Numeral.digit?_of_value? hhigh
  have hlow' := Numeral.digit?_of_value? hlow
  have hlt := Numeral.lt_of_digit? hhigh'
  have hlt' := Numeral.lt_of_digit? hlow'
  exact ⟨.digits hhigh' hlow', by omega⟩

end Hex

namespace Color

open Numeral (PairStandsFor)

variable {color : Color} {s : String} {cs : List Char}

/-! ### Six digits -/

/-- Behind its marks the text is six hexadecimal digits. -/
def IsHex (s : String) : Prop :=
  (unmarked s).length = 6 ∧ ∀ c ∈ unmarked s, (Hex.value? c).isSome

/-- The color that six hexadecimal digits stand for, two for each component. -/
def ofHex? : List Char → Option Color
  | [a, b, c, d, e, f] => do
    let red ← Hex.pair? a b
    let green ← Hex.pair? c d
    let blue ← Hex.pair? e f
    return { red, green, blue }
  | _ => none

/-- The components are bytes. -/
def OfBytes (color : Color) : Prop :=
  (0 ≤ color.red ∧ color.red ≤ 255) ∧ (0 ≤ color.green ∧ color.green ≤ 255) ∧
    0 ≤ color.blue ∧ color.blue ≤ 255

/-- The text is three pairs of characters, which stand for the components. -/
def Spells (cs : List Char) (color : Color) : Prop :=
  ∃ a b c d e f, cs = [a, b, c, d, e, f] ∧ PairStandsFor a b color.red ∧
    PairStandsFor c d color.green ∧ PairStandsFor e f color.blue

theorem exists_six (h : cs.length = 6) : ∃ a b c d e f, cs = [a, b, c, d, e, f] := by
  match cs, h with
  | [a, b, c, d, e, f], _ => exact ⟨a, b, c, d, e, f, rfl⟩

/-- Six hexadecimal digits are three pairs, and the color has bytes for components. -/
theorem spells_of_ofHex? (h : ofHex? cs = some color) : Spells cs color ∧ color.OfBytes := by
  unfold ofHex? at h
  split at h
  · rename_i a b c d e f
    simp only [Option.bind_eq_bind, Option.bind_eq_some_iff, Option.pure_def,
      Option.some.injEq] at h
    obtain ⟨red, hred, green, hgreen, blue, hblue, rfl⟩ := h
    obtain ⟨hred, hred'⟩ := Hex.pairStandsFor_of_pair? hred
    obtain ⟨hgreen, hgreen'⟩ := Hex.pairStandsFor_of_pair? hgreen
    obtain ⟨hblue, hblue'⟩ := Hex.pairStandsFor_of_pair? hblue
    refine ⟨⟨a, b, c, d, e, f, rfl, hred, hgreen, hblue⟩, ?_⟩
    simp only [OfBytes]
    omega
  · exact nomatch h

theorem isSome_ofHex?_six (a b c d e f : Char) :
    (ofHex? [a, b, c, d, e, f]).isSome ↔
      (Hex.pair? a b).isSome ∧ (Hex.pair? c d).isSome ∧ (Hex.pair? e f).isSome := by
  rw [ofHex?]
  rcases Hex.pair? a b with - | red
  · simp
  · rcases Hex.pair? c d with - | green
    · simp
    · rcases Hex.pair? e f with - | blue
      · simp
      · simp

/-- There is such a color exactly for the texts that are six hexadecimal digits. -/
theorem isSome_ofHex?_iff : (ofHex? (unmarked s)).isSome ↔ IsHex s := by
  rw [IsHex]
  generalize unmarked s = cs
  constructor
  · intro h
    obtain ⟨color, hcolor⟩ := Option.isSome_iff_exists.1 h
    obtain ⟨⟨a, b, c, d, e, f, rfl, -⟩, -⟩ := spells_of_ofHex? hcolor
    refine ⟨rfl, ?_⟩
    simpa only [List.forall_mem_cons, List.not_mem_nil, false_imp_iff, implies_true, and_true,
      isSome_ofHex?_six, Hex.isSome_pair?_iff, and_assoc] using h
  · rintro ⟨hlength, hdigits⟩
    obtain ⟨a, b, c, d, e, f, rfl⟩ := exists_six hlength
    simpa only [List.forall_mem_cons, List.not_mem_nil, false_imp_iff, implies_true, and_true,
      isSome_ofHex?_six, Hex.isSome_pair?_iff, and_assoc] using hdigits

/-! ### What is read -/

theorem parse?_eq_some_iff_spells : parse? s = some color ↔ Spells (unmarked s) color := by
  rw [parse?]
  constructor
  · intro h
    split at h
    · rename_i a b c d e f hcs
      simp only [Option.bind_eq_bind, Option.bind_eq_some_iff, Option.pure_def,
        Option.some.injEq, Numeral.read?_pair_eq_some_iff] at h
      obtain ⟨red, hred, green, hgreen, blue, hblue, rfl⟩ := h
      exact ⟨a, b, c, d, e, f, hcs, hred, hgreen, hblue⟩
    · cases h
  · rintro ⟨a, b, c, d, e, f, hcs, hred, hgreen, hblue⟩
    rw [hcs]
    simp only [Numeral.read?_pair_eq_some_iff.2 hred, Numeral.read?_pair_eq_some_iff.2 hgreen,
      Numeral.read?_pair_eq_some_iff.2 hblue]
    rfl

/-- Six hexadecimal digits are read as they should be. -/
theorem parse?_of_isHex (h : IsHex s) : parse? s = ofHex? (unmarked s) := by
  obtain ⟨color, hcolor⟩ := Option.isSome_iff_exists.1 (isSome_ofHex?_iff.2 h)
  rw [hcolor]
  exact parse?_eq_some_iff_spells.2 (spells_of_ofHex? hcolor).1

/-- **What is taken for a color.** A text is read exactly if it is three pairs behind its marks that
stand for numbers, which are the components. Six hexadecimal digits are among these texts, and stand
for the bytes that they should; of any other text no color should be read. It is so for a text
exactly if it spells no color or is six hexadecimal digits. -/
theorem parse?_eq_ofHex?_iff (s : String) :
    (∀ color, parse? s = some color ↔ Spells (unmarked s) color) ∧
      (IsHex s → ∃ color, ofHex? (unmarked s) = some color ∧ parse? s = some color ∧
        color.OfBytes) ∧
      (¬IsHex s → ofHex? (unmarked s) = none) ∧
      (parse? s = ofHex? (unmarked s) ↔ ∀ color, Spells (unmarked s) color → IsHex s) := by
  have hnone : ¬IsHex s → ofHex? (unmarked s) = none := by
    intro h
    rwa [← isSome_ofHex?_iff, Option.not_isSome_iff_eq_none] at h
  refine ⟨fun color ↦ parse?_eq_some_iff_spells, fun h ↦ ?_, hnone, fun h color hspells ↦ ?_,
    fun h ↦ ?_⟩
  · obtain ⟨color, hcolor⟩ := Option.isSome_iff_exists.1 (isSome_ofHex?_iff.2 h)
    exact ⟨color, hcolor, (parse?_of_isHex h).trans hcolor, (spells_of_ofHex? hcolor).2⟩
  · rw [parse?_eq_some_iff_spells.2 hspells] at h
    exact isSome_ofHex?_iff.1 (h ▸ rfl)
  · by_cases hhex : IsHex s
    · exact parse?_of_isHex hhex
    · rw [hnone hhex, Option.eq_none_iff_forall_not_mem]
      exact fun color hcolor ↦ hhex (h color (parse?_eq_some_iff_spells.1 hcolor))

/-- Three pairs of a sign and a digit are no color, and yet a color is read from them: one whose
components are no bytes. -/
theorem not_only_hex :
    parse? "-1-1-1" = some ⟨-1, -1, -1⟩ ∧ ¬OfBytes ⟨-1, -1, -1⟩ ∧
      ¬((parse? "-1-1-1").isSome ↔ IsHex "-1-1-1") := by
  have hread : parse? "-1-1-1" = some ⟨-1, -1, -1⟩ := by decide
  refine ⟨hread, fun h ↦ absurd h.1.1 (by decide), fun h ↦ ?_⟩
  have hhex : IsHex "-1-1-1" := h.1 (by rw [hread]; rfl)
  exact absurd (hhex.2 '-' (by decide)) (by decide)

end Color

end ChipEight
