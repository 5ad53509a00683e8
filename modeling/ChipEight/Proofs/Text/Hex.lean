import ChipEight.Text.Hex
import Mathlib.Data.List.Basic

/-!
# Reading hexadecimal text

`Hex.number` reads a run of digits, and `Hex.numbersIn` finds all numbers in a text, each by the
letter `x` in front of it. **What was written is read back**, however many zeros it was filled up
with: `number_digits` is the induction over the digits, and `numbersIn_label` takes one number with
the text in front of it off a longer text. A number is at its end where the next character is not a
digit, which is all that is asked of what stands behind it.

Bytes are written in two digits each and read back in pairs (`bytesOf_ofBytes`).
-/

namespace ChipEight.Hex

variable {a b c : Char} {d n : Nat} {cs ds rest : List Char}

/-! ### Digits -/

/-- The character is a hexadecimal digit. -/
def isDigit (c : Char) : Bool := (value? c).isSome

theorem isDigit_digit (h : d < 16) : isDigit (digit d) = true := by
  rw [isDigit, value?_digit d h]
  rfl

theorem isDigit_of_mem_digits (h : c ∈ digits n) : isDigit c = true := by
  induction n using digits.induct with
  | case1 n hlt =>
    rw [digits, if_pos hlt, List.mem_singleton] at h
    rw [h]
    exact isDigit_digit hlt
  | case2 n hge ih =>
    rw [digits, if_neg hge, List.mem_append, List.mem_singleton] at h
    rcases h with h | h
    · exact ih h
    · rw [h]
      exact isDigit_digit (Nat.mod_lt n (by decide))

/-! ### One number -/

/-- The number that a run of digits stands for. -/
def number (cs : List Char) : Nat := cs.foldl (fun n c ↦ 16 * n + (value? c).getD 0) 0

theorem number_concat (cs : List Char) (h : d < 16) :
    number (cs ++ [digit d]) = 16 * number cs + d := by
  rw [number, List.foldl_append, List.foldl_cons, List.foldl_nil, value?_digit d h]
  rfl

/-- **A number is read back from its digits.** -/
theorem number_digits (n : Nat) : number (digits n) = n := by
  induction n using digits.induct with
  | case1 n hlt =>
    rw [digits, if_pos hlt, ← List.nil_append [digit n], number_concat [] hlt]
    exact Nat.zero_add n
  | case2 n hge ih =>
    rw [digits, if_neg hge, number_concat _ (Nat.mod_lt n (by decide)), ih]
    exact Nat.div_add_mod n 16

theorem number_replicate_zero (k : Nat) (cs : List Char) :
    number (List.replicate k '0' ++ cs) = number cs := by
  induction k with
  | zero => rfl
  | succ k ih => exact ih

theorem toList_padded (width n : Nat) :
    (padded width n).toList = List.replicate (width - (digits n).length) '0' ++ digits n := by
  have hsign : ¬((n : Int) < 0) := Int.not_lt.2 (Int.natCast_nonneg n)
  simp only [padded, hsign, if_false, Int.natAbs_natCast, String.toList_ofList, List.nil_append,
    List.length_nil, Nat.sub_zero]

/-- **And from its digits with zeros in front of them.** -/
theorem number_padded (width n : Nat) : number (padded width n).toList = n := by
  rw [toList_padded, number_replicate_zero, number_digits]

theorem isDigit_of_mem_padded {width : Nat} (h : c ∈ (padded width n).toList) :
    isDigit c = true := by
  rw [toList_padded, List.mem_append] at h
  rcases h with h | h
  · rw [(List.mem_replicate.1 h).2]
    decide
  · exact isDigit_of_mem_digits h

/-! ### Numbers in a text -/

/-- All numbers in a text, each behind the letter `x`. -/
def numbersIn : List Char → List Nat
  | [] => []
  | c :: rest =>
    if c = 'x' then number (rest.takeWhile isDigit) :: numbersIn rest
    else numbersIn rest

/-- Where there is no `x` there is no number. -/
theorem numbersIn_append (h : 'x' ∉ cs) (rest : List Char) :
    numbersIn (cs ++ rest) = numbersIn rest := by
  induction cs with
  | nil => rfl
  | cons c cs ih =>
    rw [List.mem_cons, not_or] at h
    rw [List.cons_append, numbersIn, if_neg (Ne.symm h.1), ih h.2]

theorem numbersIn_of_not_mem (h : 'x' ∉ cs) : numbersIn cs = [] := by
  have hnone := numbersIn_append h []
  rwa [List.append_nil] at hnone

/-- The text does not go on with a digit. -/
def Ends (cs : List Char) : Prop := ∀ c ∈ cs.head?, isDigit c = false

theorem Ends.nil : Ends [] := fun _ h ↦ nomatch h

theorem Ends.cons (h : isDigit c = false) (rest : List Char) : Ends (c :: rest) := by
  intro c' hc'
  cases hc'
  exact h

theorem takeWhile_isDigit (hds : ∀ c ∈ ds, isDigit c = true) (hrest : Ends rest) :
    (ds ++ rest).takeWhile isDigit = ds := by
  rw [List.takeWhile_append_of_pos hds]
  cases rest with
  | nil => exact List.append_nil ds
  | cons c rest =>
    rw [List.takeWhile_cons_of_neg (by rw [hrest c rfl]; decide), List.append_nil]

/-- **A number is found behind its label.** -/
theorem numbersIn_label {label : List Char} (hlabel : 'x' ∉ label) (width n : Nat)
    (hrest : Ends rest) :
    numbersIn (label ++ 'x' :: ((padded width n).toList ++ rest)) = n :: numbersIn rest := by
  have hds : ∀ c ∈ (padded width n).toList, isDigit c = true := fun _ ↦ isDigit_of_mem_padded
  have hx : 'x' ∉ (padded width n).toList := fun h ↦ absurd (hds _ h) (by decide)
  rw [numbersIn_append hlabel, numbersIn, if_pos rfl, takeWhile_isDigit hds hrest, number_padded,
    numbersIn_append hx]

/-! ### Bytes -/

/-- The bytes that digits stand for, two for each. -/
def bytesOf : List Char → List UInt8
  | a :: b :: rest => UInt8.ofNat (number [a, b]) :: bytesOf rest
  | _ => []

theorem toList_byte (byte : UInt8) :
    (Hex.byte byte).toList = [digit (byte.toNat / 16), digit (byte.toNat % 16)] := by
  have hlt := byte.toNat_lt
  rw [Hex.byte, toList_padded]
  by_cases hsmall : byte.toNat < 16
  · rw [digits, if_pos hsmall, Nat.div_eq_of_lt hsmall, Nat.mod_eq_of_lt hsmall]
    rfl
  · rw [digits, if_neg hsmall, digits, if_pos (by omega)]
    rfl

/-- The digits of bytes, one byte behind the other. -/
def ofBytes (bytes : List UInt8) : List Char := bytes.flatMap fun b ↦ (byte b).toList

/-- **Bytes are read back from their digits.** -/
theorem bytesOf_ofBytes (bytes : List UInt8) : bytesOf (ofBytes bytes) = bytes := by
  induction bytes with
  | nil => rfl
  | cons b bytes ih =>
    have hnumber : number (byte b).toList = b.toNat := number_padded 2 b.toNat
    rw [toList_byte] at hnumber
    rw [ofBytes, List.flatMap_cons, toList_byte, List.cons_append, List.cons_append,
      List.nil_append, bytesOf, hnumber, UInt8.ofNat_toNat]
    exact congrArg (b :: ·) ih

theorem isDigit_of_mem_ofBytes {bytes : List UInt8} (h : c ∈ ofBytes bytes) : isDigit c = true := by
  obtain ⟨b, -, hb⟩ := List.mem_flatMap.1 h
  exact isDigit_of_mem_padded hb

end ChipEight.Hex
