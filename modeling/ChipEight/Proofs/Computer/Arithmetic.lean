import ChipEight.Proofs.Computer.Restart

/-!
# Arithmetic on two registers

Five operations set the flag register as well as their result: the sum, the two differences and the
two shifts. `resultOf` and `flagOf` say what they come to, **by the digit of the word and in whole
numbers**, and `exists_operation` that the operations of the machine are these.

**The flag is judged by the operands, but the result is not always made of them.** The flag is
written first, and the operands are read once more after it. Where the flag register is the second
operand, a sum or a difference is made with the flag in place of what was there
(`arithmetic_uses_operands_iff`), so that five and ten do not make fifteen
(`not_arithmetic_uses_operands`).
-/

namespace ChipEight

namespace Arithmetic

/-! ### Operations on numbers -/

/-- The last digits of the words that set the flag register. -/
def flagDigits : List Nat := [0x4, 0x5, 0x6, 0x7, 0xE]

/-- Those of them that look at the second operand for their result. -/
def binaryDigits : List Nat := [0x4, 0x5, 0x7]

/-- The result that belongs to a digit. -/
def resultOf (digit : Nat) (a b : Int) : Int :=
  match digit with
  | 0x4 => (a + b) % 256
  | 0x5 => (a - b) % 256
  | 0x6 => a / 2
  | 0x7 => (b - a) % 256
  | _ => 2 * a % 256

/-- The flag that belongs to a digit. -/
def flagOf (digit : Nat) (a b : Int) : Bool :=
  match digit with
  | 0x4 => decide (255 < a + b)
  | 0x5 => decide (b < a)
  | 0x6 => decide (a % 2 = 1)
  | 0x7 => decide (a < b)
  | _ => decide (128 ≤ a)

/-- **The operation of each digit** has the result and the flag that belong to the digit. -/
theorem exists_operation {digit : Nat} (h : digit ∈ flagDigits) :
    ∃ op, ofDigit? digit = some op ∧
      (∀ a b, op.flag? a b = some (flagOf digit a.toNat b.toNat)) ∧
      ∀ a b, ((op.result a b).toNat : Int) = resultOf digit a.toNat b.toNat := by
  simp only [flagDigits, List.mem_cons, List.not_mem_nil, or_false] at h
  rcases h with rfl | rfl | rfl | rfl | rfl
  · refine ⟨add, rfl, fun a b ↦ ?_, fun a b ↦ ?_⟩
    · simp only [flag?, flagOf, Option.some.injEq, decide_eq_decide]
      omega
    · rw [result, resultOf, UInt8.toNat_add]
      omega
  · refine ⟨sub, rfl, fun a b ↦ ?_, fun a b ↦ ?_⟩
    · simp only [flag?, flagOf, Option.some.injEq, decide_eq_decide, UInt8.lt_iff_toNat_lt]
      omega
    · have hb := b.toNat_lt
      rw [result, resultOf, UInt8.toNat_sub]
      omega
  · refine ⟨shiftRight, rfl, fun a b ↦ ?_, fun a b ↦ ?_⟩
    · simp only [flag?, flagOf, Option.some.injEq, decide_eq_decide]
      omega
    · rw [result, resultOf, UInt8.toNat_shiftRight, Nat.shiftRight_eq_div_pow]
      rfl
  · refine ⟨subFrom, rfl, fun a b ↦ ?_, fun a b ↦ ?_⟩
    · simp only [flag?, flagOf, Option.some.injEq, decide_eq_decide, UInt8.lt_iff_toNat_lt]
      omega
    · have ha := a.toNat_lt
      rw [result, resultOf, UInt8.toNat_sub]
      omega
  · refine ⟨shiftLeft, rfl, fun a b ↦ ?_, fun a b ↦ ?_⟩
    · simp only [flag?, flagOf, Option.some.injEq, decide_eq_decide]
      omega
    · rw [result, UInt8.toNat_shiftLeft, Nat.shiftLeft_eq]
      show ((a.toNat * 2 % 2 ^ 8 : Nat) : Int) = 2 * (a.toNat : Int) % 256
      omega

/-- **The second operand matters to sums and differences**, and to no shift. -/
theorem resultOf_eq_iff {digit : Nat} (h : digit ∈ flagDigits) (a : Int) {b b' : Int}
    (h0 : 0 ≤ b) (hlt : b < 256) (h0' : 0 ≤ b') (hlt' : b' < 256) :
    resultOf digit a b' = resultOf digit a b ↔ (digit ∈ binaryDigits → b = b') := by
  simp only [flagDigits, List.mem_cons, List.not_mem_nil, or_false] at h
  rcases h with rfl | rfl | rfl | rfl | rfl
  · simp only [resultOf, binaryDigits, List.mem_cons, true_or, forall_true_left]
    omega
  · simp only [resultOf, binaryDigits, List.mem_cons, true_or, or_true, forall_true_left]
    omega
  · exact iff_of_true rfl fun h ↦ absurd h (by decide)
  · simp only [resultOf, binaryDigits, List.mem_cons, true_or, or_true, forall_true_left]
    omega
  · exact iff_of_true rfl fun h ↦ absurd h (by decide)

end Arithmetic

namespace Computer

open Instruction Arithmetic

variable {c : Computer} {w : Nat}

/-! ### Operations on registers -/

/-- The flag as a byte. -/
def flagByte (flag : Bool) : UInt8 := if flag then 1 else 0

/-- The computer behind an operation that has set the flag register, and then a register. -/
def reckoned (c : Computer) (x : Reg) (value : UInt8) (flag : Bool) : Computer :=
  ((c.setFlag flag).setV x value).next

theorem v_setV (c : Computer) (x y : Reg) (value : UInt8) :
    (c.setV x value).v y = if x = y then value else c.v y :=
  Registers.v_setV _ _ _ _

theorem v_setFlag (c : Computer) (flag : Bool) (y : Reg) :
    (c.setFlag flag).v y = if flagReg = y then flagByte flag else c.v y :=
  c.v_setV _ _ _

theorem v_reckoned (c : Computer) (x y : Reg) (value : UInt8) (flag : Bool) :
    (c.reckoned x value flag).v y =
      if x = y then value else if flagReg = y then flagByte flag else c.v y :=
  ((c.setFlag flag).v_setV x y value).trans (by rw [v_setFlag])

/-- **An operation with a flag**, whose result is not to go to the flag register: the result is made
of the first operand and of what the second register holds behind the flag. -/
theorem execute_of_flag {op : Arithmetic} {flag : Bool} (hword : w < 0x10000)
    (hfamily : w / 0x1000 = 0x8) (hop : ofDigit? (w % 0x10) = some op)
    (hflag : op.flag? (c.v (regX w)) (c.v (regY w)) = some flag) (hx : regX w ≠ flagReg) :
    c.execute w = .done (c.reckoned (regX w)
      (op.result (c.v (regX w)) (if regY w = flagReg then flagByte flag else c.v (regY w)))
      flag) := by
  have hfirst : (c.setFlag flag).v (regX w) = c.v (regX w) := by
    rw [v_setFlag, if_neg hx.symm]
  have hsecond : (c.setFlag flag).v (regY w) =
      if regY w = flagReg then flagByte flag else c.v (regY w) := by
    rw [v_setFlag]
    exact if_congr eq_comm rfl rfl
  rw [execute_of_decode hword (decode_of_standsFor (.arithmetic hfamily hop)), perform]
  simp only [doArithmetic, hflag]
  rw [hfirst, hsecond, reckoned]

/-- **The flag of an operation is that of its operands, and so is its result, unless the flag
register is the second operand of a sum or a difference and holds something else than the flag.**
For every computer, and every word that sets the flag and has its result elsewhere,

* the instruction gets to its end, and goes on behind itself;
* nothing but the destination and the flag register is touched;
* the flag register holds the flag of the operands as they were before the instruction;
* the destination holds the result for the first operand as it was, and for the second as it was,
  or, where that is the flag register, for the flag;
* this is the result for both operands as they were, exactly if the second is not the flag register,
  or the operation is a shift, or the flag register has held the flag already. -/
theorem arithmetic_uses_operands_iff (hword : w < 0x10000) (hfamily : w / 0x1000 = 0x8)
    (hdigit : w % 0x10 ∈ flagDigits) (hx : regX w ≠ flagReg) :
    let a : Int := (c.v (regX w)).toNat
    let b : Int := (c.v (regY w)).toNat
    let flag : Int := if flagOf (w % 0x10) a b then 1 else 0
    let c' := (c.execute w).state
    (c.execute w).halt = none ∧
      c' = { c with registers := { c.registers with
        v := c'.registers.v
        pc := wrap16 (c.registers.pc + 2) } } ∧
      (∀ z, z ≠ regX w → z ≠ flagReg → c'.v z = c.v z) ∧
      ((c'.v flagReg).toNat : Int) = flag ∧
      ((c'.v (regX w)).toNat : Int) =
        resultOf (w % 0x10) a (if regY w = flagReg then flag else b) ∧
      (((c'.v (regX w)).toNat : Int) = resultOf (w % 0x10) a b ↔
        (regY w = flagReg → w % 0x10 ∈ binaryDigits → b = flag)) := by
  intro a b flag c'
  obtain ⟨op, hop, hflag, hresult⟩ := exists_operation hdigit
  have hexecute : c.execute w = .done (c.reckoned (regX w) _ (flagOf (w % 0x10) a b)) :=
    execute_of_flag hword hfamily hop (hflag _ _) hx
  have hc' : c' = c.reckoned (regX w) _ _ := congrArg Outcome.state hexecute
  have hbyte : ((flagByte (flagOf (w % 0x10) a b)).toNat : Int) = flag := by
    simp only [flag, flagByte]
    rcases flagOf (w % 0x10) a b with - | -
    · rfl
    · rfl
  have hdestination : ((c'.v (regX w)).toNat : Int) =
      resultOf (w % 0x10) a (if regY w = flagReg then flag else b) := by
    rw [hc', v_reckoned, if_pos rfl, hresult]
    by_cases hy : regY w = flagReg
    · rw [if_pos hy, if_pos hy, hbyte]
    · rw [if_neg hy, if_neg hy]
  refine ⟨congrArg Outcome.halt hexecute, ?_, fun z hzx hzf ↦ ?_, ?_, hdestination, ?_⟩
  · rw [hc']
    rfl
  · rw [hc', v_reckoned, if_neg hzx.symm, if_neg hzf.symm]
  · rw [hc', v_reckoned, if_neg hx, if_pos rfl]
    exact hbyte
  · have hb := (c.v (regY w)).toNat_lt
    have hflagByte := (flagByte (flagOf (w % 0x10) a b)).toNat_lt
    rw [hdestination]
    by_cases hy : regY w = flagReg
    · rw [if_pos hy, resultOf_eq_iff hdigit a (by omega) (by omega) (by omega) (by omega)]
      exact ⟨fun h _ ↦ h, fun h ↦ h hy⟩
    · rw [if_neg hy]
      exact iff_of_true rfl fun h ↦ absurd h hy

/-- A computer with a five in the first register and a ten in the flag register. -/
def reckoning : Computer := ((starting (.blank 80)).setV firstReg 5).setV flagReg 10

/-- **Five and ten make five** where the ten is in the flag register. -/
theorem arithmetic_uses_operands_reckoning :
    regX 0x80F4 ≠ flagReg ∧ (reckoning.v (regX 0x80F4)).toNat = 5 ∧
      (reckoning.v (regY 0x80F4)).toNat = 10 ∧
      ((reckoning.execute (0x80F4 : Nat)).state.v flagReg).toNat = 0 ∧
      ((reckoning.execute (0x80F4 : Nat)).state.v (regX 0x80F4)).toNat = 5 := by
  have hx : regX 0x80F4 ≠ flagReg := by decide
  have hfirst : (reckoning.v (regX 0x80F4)).toNat = 5 := by decide +kernel
  have hsecond : (reckoning.v (regY 0x80F4)).toNat = 10 := by decide +kernel
  obtain ⟨-, -, -, hflag, hresult, -⟩ :=
    arithmetic_uses_operands_iff (c := reckoning) (by decide) (by decide) (by decide) hx
  rw [hfirst, hsecond] at hflag hresult
  exact ⟨hx, hfirst, hsecond, Int.ofNat_inj.1 hflag, Int.ofNat_inj.1 hresult⟩

/-- **The result is not always that of the operands as they were**, although it does not go to the
flag register. -/
theorem not_arithmetic_uses_operands :
    ¬ ∀ (c : Computer) (w : Nat), w < 0x10000 → w / 0x1000 = 0x8 → w % 0x10 ∈ flagDigits →
      regX w ≠ flagReg →
        let a : Int := (c.v (regX w)).toNat
        let b : Int := (c.v (regY w)).toNat
        let c' := (c.execute w).state
        ((c'.v (regX w)).toNat : Int) = resultOf (w % 0x10) a b ∧
          (c'.v flagReg).toNat = (if flagOf (w % 0x10) a b then 1 else 0) ∧
          ∀ z, z ≠ regX w → z ≠ flagReg → c'.v z = c.v z := by
  intro hlaw
  obtain ⟨hresult, -⟩ := hlaw reckoning 0x80F4 (by decide) (by decide) (by decide) (by decide)
  have hfifteen : ((reckoning.execute (0x80F4 : Nat)).state.v (regX 0x80F4)).toNat ≠ 15 := by
    decide +kernel
  exact hfifteen (Int.ofNat_inj.1 hresult)

end Computer

end ChipEight
