import ChipEight.Instruction
import Mathlib.Data.List.Basic

/-!
# Which word is which instruction

`StandsFor` is the table of the instruction set: one line for each instruction, read off the digits
of a word and **written without the decoder**. `decode_eq_some_iff` says that the decoder follows
the table, and `decode_eq_none_iff` that it refuses exactly the words of the families `8`, `E` and
`F` whose last digits pick nothing.

`wordSpan` is how many bytes of memory a word works on, counted from the address register on. It is
zero for every word that touches no memory, a sprite without rows among them.
-/

namespace ChipEight.Instruction

/-! ### The table -/

/-- The register in the second digit of a word. -/
def regX (w : Nat) : Reg := lastDigit (w / 0x100)

/-- The register in the third digit of a word. -/
def regY (w : Nat) : Reg := lastDigit (w / 0x10)

/-- The instruction that a word stands for, family by family. -/
inductive StandsFor (w : Nat) : Instruction → Prop
  | clearScreen : w / 0x1000 = 0x0 → w % 0x100 = 0xE0 → StandsFor w clearScreen
  | ret : w / 0x1000 = 0x0 → w % 0x100 = 0xEE → StandsFor w ret
  | sys : w / 0x1000 = 0x0 → w % 0x100 ≠ 0xE0 → w % 0x100 ≠ 0xEE → StandsFor w sys
  | jump : w / 0x1000 = 0x1 → StandsFor w (jump (targetOf w))
  | call : w / 0x1000 = 0x2 → StandsFor w (call (targetOf w))
  | skipByte : w / 0x1000 = 0x3 → StandsFor w (skip (.equalsByte (regX w) (UInt8.ofNat w)))
  | skipNotByte : w / 0x1000 = 0x4 →
      StandsFor w (skip (.differsFromByte (regX w) (UInt8.ofNat w)))
  | skipEqual : w / 0x1000 = 0x5 → StandsFor w (skip (.equals (regX w) (regY w)))
  | setByte : w / 0x1000 = 0x6 → StandsFor w (setByte (regX w) (UInt8.ofNat w))
  | addByte : w / 0x1000 = 0x7 → StandsFor w (addByte (regX w) (UInt8.ofNat w))
  | arithmetic {a : Arithmetic} : w / 0x1000 = 0x8 → Arithmetic.ofDigit? (w % 0x10) = some a →
      StandsFor w (arithmetic a (regX w) (regY w))
  | skipDiffer : w / 0x1000 = 0x9 → StandsFor w (skip (.differs (regX w) (regY w)))
  | setI : w / 0x1000 = 0xA → StandsFor w (setI (targetOf w))
  | jumpPlusV0 : w / 0x1000 = 0xB → StandsFor w (jumpPlusV0 (targetOf w))
  | random : w / 0x1000 = 0xC → StandsFor w (random (regX w) (UInt8.ofNat w))
  | draw : w / 0x1000 = 0xD → StandsFor w (draw (regX w) (regY w) (lastDigit w))
  | skipKeyDown : w / 0x1000 = 0xE → w % 0x100 = 0x9E → StandsFor w (skip (.keyDown (regX w)))
  | skipKeyUp : w / 0x1000 = 0xE → w % 0x100 = 0xA1 → StandsFor w (skip (.keyUp (regX w)))
  | getDelay : w / 0x1000 = 0xF → w % 0x100 = 0x07 → StandsFor w (getDelay (regX w))
  | awaitKey : w / 0x1000 = 0xF → w % 0x100 = 0x0A → StandsFor w (awaitKey (regX w))
  | setDelay : w / 0x1000 = 0xF → w % 0x100 = 0x15 → StandsFor w (setDelay (regX w))
  | setSound : w / 0x1000 = 0xF → w % 0x100 = 0x18 → StandsFor w (setSound (regX w))
  | addToI : w / 0x1000 = 0xF → w % 0x100 = 0x1E → StandsFor w (addToI (regX w))
  | fontSprite : w / 0x1000 = 0xF → w % 0x100 = 0x29 → StandsFor w (fontSprite (regX w))
  | storeDigits : w / 0x1000 = 0xF → w % 0x100 = 0x33 → StandsFor w (storeDigits (regX w))
  | storeRegisters : w / 0x1000 = 0xF → w % 0x100 = 0x55 → StandsFor w (storeRegisters (regX w))
  | loadRegisters : w / 0x1000 = 0xF → w % 0x100 = 0x65 → StandsFor w (loadRegisters (regX w))

/-- A word that no line of the table has. -/
def IsUnknown (w : Nat) : Prop :=
  (w / 0x1000 = 0x8 ∧ w % 0x10 ∉ [0x0, 0x1, 0x2, 0x3, 0x4, 0x5, 0x6, 0x7, 0xE]) ∨
  (w / 0x1000 = 0xE ∧ w % 0x100 ∉ [0x9E, 0xA1]) ∨
  (w / 0x1000 = 0xF ∧ w % 0x100 ∉ [0x07, 0x0A, 0x15, 0x18, 0x1E, 0x29, 0x33, 0x55, 0x65])

instance (w : Nat) : Decidable (IsUnknown w) := inferInstanceAs (Decidable (_ ∨ _ ∨ _))

/-! ### The decoder follows the table -/

theorem standsFor_of_ofSystemByte {w : Nat} (hw : w / 0x1000 = 0x0) :
    StandsFor w (ofSystemByte (w % 0x100)) := by
  rw [ofSystemByte]
  split
  · exact .clearScreen hw ‹_›
  · split
    · exact .ret hw ‹_›
    · exact .sys hw ‹_› ‹_›

theorem standsFor_of_ofKeyByte? {w : Nat} {i : Instruction} (hw : w / 0x1000 = 0xE)
    (h : ofKeyByte? (regX w) (w % 0x100) = some i) : StandsFor w i := by
  rw [ofKeyByte?] at h
  split at h
  · cases h; exact .skipKeyDown hw ‹_›
  · split at h
    · cases h; exact .skipKeyUp hw ‹_›
    · exact nomatch h

theorem standsFor_of_ofMiscByte? {w : Nat} {i : Instruction} (hw : w / 0x1000 = 0xF)
    (h : ofMiscByte? (regX w) (w % 0x100) = some i) : StandsFor w i := by
  unfold ofMiscByte? at h
  split at h
  · cases h; exact .getDelay hw ‹_›
  · cases h; exact .awaitKey hw ‹_›
  · cases h; exact .setDelay hw ‹_›
  · cases h; exact .setSound hw ‹_›
  · cases h; exact .addToI hw ‹_›
  · cases h; exact .fontSprite hw ‹_›
  · cases h; exact .storeDigits hw ‹_›
  · cases h; exact .storeRegisters hw ‹_›
  · cases h; exact .loadRegisters hw ‹_›
  · exact nomatch h

theorem standsFor_of_decode {w : Nat} (hw : w < 0x10000) {i : Instruction}
    (h : decode w = some i) : StandsFor w i := by
  have hfamily : w / 0x1000 % 16 = w / 0x1000 := Nat.mod_eq_of_lt (by omega)
  simp only [decode, hfamily] at h
  split at h
  · cases h; exact standsFor_of_ofSystemByte ‹_›
  · cases h; exact .jump ‹_›
  · cases h; exact .call ‹_›
  · cases h; exact .skipByte ‹_›
  · cases h; exact .skipNotByte ‹_›
  · cases h; exact .skipEqual ‹_›
  · cases h; exact .setByte ‹_›
  · cases h; exact .addByte ‹_›
  · obtain ⟨a, ha, rfl⟩ := Option.map_eq_some_iff.1 h
    exact .arithmetic ‹_› ha
  · cases h; exact .skipDiffer ‹_›
  · cases h; exact .setI ‹_›
  · cases h; exact .jumpPlusV0 ‹_›
  · cases h; exact .random ‹_›
  · cases h; exact .draw ‹_›
  · exact standsFor_of_ofKeyByte? ‹_› h
  · exact standsFor_of_ofMiscByte? (by grind) h

theorem decode_of_standsFor {w : Nat} {i : Instruction} (h : StandsFor w i) :
    decode w = some i := by
  cases h with
  | arithmetic hw ha => simp [decode, hw, ha, regX, regY]
  | clearScreen hw hk => simp [decode, hw, ofSystemByte, hk]
  | ret hw hk => simp [decode, hw, ofSystemByte, hk]
  | sys hw hcls hret => simp [decode, hw, ofSystemByte, hcls, hret]
  | skipKeyDown hw hk | skipKeyUp hw hk => simp [decode, hw, ofKeyByte?, hk, regX]
  | getDelay hw hk | awaitKey hw hk | setDelay hw hk | setSound hw hk | addToI hw hk
  | fontSprite hw hk | storeDigits hw hk | storeRegisters hw hk | loadRegisters hw hk =>
    simp [decode, hw, ofMiscByte?, hk, regX]
  | _ hw => simp [decode, hw, regX, regY]

/-- **The decoder follows the table.** -/
theorem decode_eq_some_iff {w : Nat} (hw : w < 0x10000) {i : Instruction} :
    decode w = some i ↔ StandsFor w i :=
  ⟨standsFor_of_decode hw, decode_of_standsFor⟩

/-! ### The words without an instruction -/

theorem ofDigit?_eq_none_iff (n : Nat) :
    Arithmetic.ofDigit? n = none ↔ n ∉ [0x0, 0x1, 0x2, 0x3, 0x4, 0x5, 0x6, 0x7, 0xE] := by
  unfold Arithmetic.ofDigit?
  split <;> simp_all

theorem ofKeyByte?_eq_none_iff (x : Reg) (low : Nat) :
    ofKeyByte? x low = none ↔ low ∉ [0x9E, 0xA1] := by
  rw [ofKeyByte?]
  split
  · simp_all
  · split <;> simp_all

theorem ofMiscByte?_eq_none_iff (x : Reg) (low : Nat) :
    ofMiscByte? x low = none ↔
      low ∉ [0x07, 0x0A, 0x15, 0x18, 0x1E, 0x29, 0x33, 0x55, 0x65] := by
  unfold ofMiscByte?
  split <;> simp_all

/-- **The decoder refuses exactly the words that no line of the table has.** -/
theorem decode_eq_none_iff {w : Nat} (hw : w < 0x10000) : decode w = none ↔ IsUnknown w := by
  have hfamily : w / 0x1000 % 16 = w / 0x1000 := Nat.mod_eq_of_lt (by omega)
  rw [IsUnknown]
  simp only [decode, hfamily]
  split
  case h_9 hw' => simp [hw', ofDigit?_eq_none_iff]
  case h_15 hw' => simp [hw', ofKeyByte?_eq_none_iff]
  case h_16 =>
    have hw' : w / 0x1000 = 0xF := by grind
    simp [hw', ofMiscByte?_eq_none_iff]
  all_goals simp [*]

/-! ### The instructions that work on the stack -/

/-- An instruction is a return, a call or neither. -/
theorem ret_or_call (i : Instruction) :
    i = ret ∨ (∃ target, i = call target) ∨ (i ≠ ret ∧ ∀ target, i ≠ call target) := by
  by_cases hret : i = ret
  · exact Or.inl hret
  · by_cases hcall : ∃ target, i = call target
    · exact Or.inr (Or.inl hcall)
    · exact Or.inr (Or.inr ⟨hret, fun target heq ↦ hcall ⟨target, heq⟩⟩)

/-! ### The memory a word works on -/

/-- How many bytes from `I` on an instruction reads or writes. -/
def span : Instruction → Nat
  | draw _ _ rows => rows
  | storeDigits _ => 3
  | storeRegisters x => x + 1
  | loadRegisters x => x + 1
  | _ => 0

/-- The same, by the digits of the word. -/
def wordSpan (w : Nat) : Nat :=
  if w / 0x1000 = 0xD then w % 0x10
  else if w / 0x1000 = 0xF ∧ w % 0x100 = 0x33 then 3
  else if w / 0x1000 = 0xF ∧ (w % 0x100 = 0x55 ∨ w % 0x100 = 0x65) then w / 0x100 % 0x10 + 1
  else 0

theorem span_eq_wordSpan {w : Nat} {i : Instruction} (h : StandsFor w i) :
    i.span = wordSpan w := by
  cases h with
  | storeRegisters hw hk | loadRegisters hw hk => simp [span, wordSpan, hw, hk, regX, lastDigit]
  | draw hw => simp [span, wordSpan, hw, lastDigit]
  | storeDigits hw hk => simp [span, wordSpan, hw, hk]
  | _ => simp [span, wordSpan, *]

/-- A word that is no instruction works on no memory. -/
theorem wordSpan_of_isUnknown {w : Nat} (h : IsUnknown w) : wordSpan w = 0 := by
  rcases h with ⟨hw, -⟩ | ⟨hw, -⟩ | ⟨hw, hlow⟩
  · simp [wordSpan, hw]
  · simp [wordSpan, hw]
  · simp only [List.mem_cons, List.not_mem_nil, or_false, not_or] at hlow
    simp [wordSpan, hw, hlow]

end ChipEight.Instruction
