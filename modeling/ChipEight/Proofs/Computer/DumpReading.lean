import ChipEight.Computer.Dump
import ChipEight.Proofs.Computer.Ranges
import ChipEight.Proofs.Files.Writing
import ChipEight.Proofs.Text.Hex
import ChipEight.Proofs.Text.Split

/-!
# Reading a dump back

`Dump.read?` takes a dump apart again: the numbers of the registers line by line, and the memory out
of the rows at the end. Numbers are as wide as they need to be, so a line is read to where its
digits end. The one part that may be any text at all is the remark on the last fault, and it may
even look like the announcement of the memory; so the rows are **what stands behind the last line
that announces them**, and no row is such a line.

`read?_dump` says that everything shown is read back (`shown`), so two computers with the
same dump agree in it (`dump_lossless`). Nothing else about a computer is in its dump.
-/

namespace ChipEight

namespace Dump

/-- What a dump shows of a machine. -/
structure Shown where
  pc : Nat
  i : Nat
  v : List Nat
  delay : Nat
  sound : Nat
  sp : Nat
  /-- The slots in use, from slot 1 on. -/
  slots : List Nat
  memory : List UInt8
  deriving DecidableEq, Repr

/-- What the dump of a computer is to show. -/
def shown (c : Computer) : Shown where
  pc := c.registers.pc.toNat
  i := c.registers.i.toNat
  v := (List.finRange 16).map fun k ↦ (c.registers.v.get k).toNat
  delay := c.registers.delay.toNat
  sound := c.registers.sound.toNat
  sp := c.registers.sp.toNat
  slots := (Computer.usedSlots c.registers).map UInt16.toNat
  memory := c.memory.cells.toList

/-! ### The reader -/

/-- The line that announces the memory. -/
def mark : List Char := "RAM:".toList

theorem mark_eq : mark = ['R', 'A', 'M', ':'] := String.toList_ofList

/-- The rows of the memory. Behind the last of them there may be an empty line. -/
def rows (text : String) : List (List Char) :=
  ((splitAt '\n' text.toList).reverse.takeWhile (· != mark)).reverse.filter (· != [])

/-- The digits of a row, behind its addresses. -/
def rowDigits (row : List Char) : List Char := (row.dropWhile (· != ':')).drop 3

/-- What a text shows, if it begins as a dump does. -/
def read? (text : String) : Option Shown :=
  match splitAt '\n' text.toList with
  | pc :: _ :: i :: v₀ :: v₁ :: v₂ :: v₃ :: delay :: sound :: sp :: stack :: _ => do
    return {
      pc := ← (Hex.numbersIn pc).head?
      i := ← (Hex.numbersIn i).head?
      v := [v₀, v₁, v₂, v₃].flatMap Hex.numbersIn
      delay := ← (Hex.numbersIn delay).head?
      sound := ← (Hex.numbersIn sound).head?
      sp := ← (Hex.numbersIn sp).head?
      slots := Hex.numbersIn stack
      memory := Hex.bytesOf ((rows text).flatMap rowDigits) }
  | _ => none

/-! ### Lines with numbers -/

/-- A label with a number behind it. -/
def valueLine (label : String) (width : Nat) (z : Int) : List Char :=
  label.toList ++ (Hex.padded width z).toList

/-- The label stands on one line and ends with the only `x` in it. -/
def Announces (label : String) : Prop :=
  ∃ before, label.toList = before ++ ['x'] ∧ 'x' ∉ before ∧ '\n' ∉ before

theorem Announces.newline_not_mem {label : String} (h : Announces label) :
    '\n' ∉ label.toList := by
  obtain ⟨before, hbefore, -, hnewline⟩ := h
  simp [hbefore, hnewline]

theorem announces_zero_x : Announces "0x" := ⟨['0'], String.toList_ofList, by decide⟩

theorem announces_upTo : Announces " - 0x" :=
  ⟨[' ', '-', ' ', '0'], String.toList_ofList, by decide⟩

theorem announces_pc : Announces "PC: 0x" :=
  ⟨['P', 'C', ':', ' ', '0'], String.toList_ofList, by decide⟩

theorem announces_i : Announces "I: 0x" := ⟨['I', ':', ' ', '0'], String.toList_ofList, by decide⟩

theorem announces_delay : Announces "delay register: 0x" :=
  ⟨['d', 'e', 'l', 'a', 'y', ' ', 'r', 'e', 'g', 'i', 's', 't', 'e', 'r', ':', ' ', '0'],
    String.toList_ofList, by decide⟩

theorem announces_sound : Announces "sound register: 0x" :=
  ⟨['s', 'o', 'u', 'n', 'd', ' ', 'r', 'e', 'g', 'i', 's', 't', 'e', 'r', ':', ' ', '0'],
    String.toList_ofList, by decide⟩

theorem announces_sp : Announces "SP: 0x" :=
  ⟨['S', 'P', ':', ' ', '0'], String.toList_ofList, by decide⟩

theorem numbersIn_valueLine {label : String} (hlabel : Announces label) (width : Nat) {z : Int}
    (hz : 0 ≤ z) {rest : List Char} (hrest : Hex.Ends rest) :
    Hex.numbersIn (valueLine label width z ++ rest) = z.toNat :: Hex.numbersIn rest := by
  obtain ⟨n, rfl⟩ := Int.eq_ofNat_of_zero_le hz
  obtain ⟨before, hbefore, hx, -⟩ := hlabel
  rw [valueLine, hbefore, List.append_assoc, List.append_assoc, List.singleton_append,
    Hex.numbersIn_label hx width n hrest]
  rfl

/-- A line with a number and nothing behind it. -/
theorem numbersIn_valueLine_self {label : String} (hlabel : Announces label) (width : Nat) {z : Int}
    (hz : 0 ≤ z) : Hex.numbersIn (valueLine label width z) = [z.toNat] := by
  have hread := numbersIn_valueLine hlabel width hz .nil
  rwa [List.append_nil] at hread

theorem not_mem_valueLine {c : Char} (hc : Hex.isDigit c = false) {label : String}
    (hlabel : c ∉ label.toList) (width : Nat) {z : Int} (hz : 0 ≤ z) :
    c ∉ valueLine label width z := by
  obtain ⟨n, rfl⟩ := Int.eq_ofNat_of_zero_le hz
  have hnumber : c ∉ (Hex.padded width n).toList := fun h ↦
    Bool.false_ne_true (hc.symm.trans (Hex.isDigit_of_mem_padded h))
  rw [valueLine, List.mem_append, not_or]
  exact ⟨hlabel, hnumber⟩

theorem newline_not_mem_valueLine {label : String} (hlabel : Announces label) (width : Nat)
    {z : Int} (hz : 0 ≤ z) : '\n' ∉ valueLine label width z :=
  not_mem_valueLine rfl hlabel.newline_not_mem width hz

/-! ### The lines in front of the memory -/

/-- What a dump says about a byte register. -/
def regEntry (r : Registers) (k : Reg) : List Char :=
  valueLine ("V" ++ Hex.plain k.val ++ ": 0x") 2 (r.v.get k).toNat

theorem announces_reg (k : Reg) : Announces ("V" ++ Hex.plain k.val ++ ": 0x") := by
  have hnumber {c : Char} (hc : Hex.isDigit c = false) : c ∉ (Hex.plain k.val).toList := fun h ↦
    Bool.false_ne_true (hc.symm.trans (Hex.isDigit_of_mem_padded h))
  have hx := hnumber (c := 'x') rfl
  have hnewline := hnumber (c := '\n') rfl
  refine ⟨'V' :: ((Hex.plain k.val).toList ++ [':', ' ', '0']), ?_, ?_, ?_⟩
  · simp [String.toList_append]
  · simp [hx]
  · simp [hnewline]

/-- The line with four byte registers, from a given one on. -/
def regLine (r : Registers) (k₀ k₁ k₂ k₃ : Reg) : List Char :=
  regEntry r k₀ ++ '\t' :: (regEntry r k₁ ++ '\t' :: (regEntry r k₂ ++ '\t' :: regEntry r k₃))

/-- The four lines with the byte registers. -/
def regLines (r : Registers) : List (List Char) :=
  (List.finRange 4).map fun ⟨k, _⟩ ↦
    regLine r ⟨4 * k, by omega⟩ ⟨4 * k + 1, by omega⟩ ⟨4 * k + 2, by omega⟩ ⟨4 * k + 3, by omega⟩

theorem regLines_eq (r : Registers) :
    regLines r =
      [regLine r 0 1 2 3, regLine r 4 5 6 7, regLine r 8 9 10 11, regLine r 12 13 14 15] := rfl

/-- The slots in use, with commas between them. -/
def slotList (slots : List UInt16) : List Char :=
  [',', ' '].intercalate (slots.map fun slot ↦ valueLine "0x" 3 slot.toNat)

theorem slotList_singleton (slot : UInt16) : slotList [slot] = valueLine "0x" 3 slot.toNat := by
  simp [slotList, List.intercalate]

theorem slotList_cons_cons (slot next : UInt16) (slots : List UInt16) :
    slotList (slot :: next :: slots) =
      valueLine "0x" 3 slot.toNat ++ ',' :: ' ' :: slotList (next :: slots) := by
  simp [slotList, List.intercalate]

/-- The label of the stack. -/
def stackLabel : List Char := "stack: [".toList

/-- The line with the stack. -/
def stackLine (r : Registers) : List Char :=
  stackLabel ++ (slotList (Computer.usedSlots r) ++ [']'])

/-- What a dump says about the word at the program counter. -/
def wordText (c : Computer) : String :=
  match c.fetch with
  | .ok opcode => s!"0x{Hex.padded 4 opcode}"
  | .error _ => "out of bounds"

/-- The lines in front of the memory and of the remark on a fault. -/
def header (c : Computer) : List (List Char) :=
  let r := c.registers
  [valueLine "PC: 0x" 3 r.pc, "Next instr.: ".toList ++ (wordText c).toList,
      valueLine "I: 0x" 3 r.i]
    ++ regLines r
    ++ [valueLine "delay register: 0x" 0 r.delay, valueLine "sound register: 0x" 0 r.sound,
      valueLine "SP: 0x" 0 r.sp, stackLine r]

/-- The remark on a fault. -/
def remark (c : Computer) : String :=
  match c.lastFault with
  | some f => s!"fault: {f.text}" ++ "\n"
  | none => ""

theorem toList_dumpBytes (r : Registers) :
    (Computer.dumpBytes r).toList = endedBy '\n' (regLines r) := by
  have hentry (k : Reg) : (s!"V{Hex.plain k.val}: 0x{Hex.byte (r.v.get k)}"
      ++ if k.val % 4 = 3 then "\n" else "\t").toList =
        regEntry r k ++ [if k.val % 4 = 3 then '\n' else '\t'] := by
    have hending : (if k.val % 4 = 3 then "\n" else "\t").toList =
        [if k.val % 4 = 3 then '\n' else '\t'] := by
      split
      · rfl
      · rfl
    show (("V" ++ Hex.plain k.val ++ ": 0x") ++ Hex.padded 2 (r.v.get k).toNat
      ++ if k.val % 4 = 3 then "\n" else "\t").toList = _
    rw [String.toList_append, String.toList_append, hending, regEntry, valueLine]
  have hregs : List.finRange 16 = [0, 1, 2, 3, 4, 5, 6, 7, 8, 9, 10, 11, 12, 13, 14, 15] := rfl
  rw [Computer.dumpBytes, String.toList_join, List.flatMap_map]
  simp only [hentry, hregs]
  simp +decide [endedBy, regLines_eq, regLine]

theorem dump_eq (c : Computer) :
    c.dump = "PC: 0x" ++ Hex.padded 3 c.registers.pc ++ "\n"
      ++ ("Next instr.: " ++ wordText c) ++ "\n" ++ ("I: 0x" ++ Hex.padded 3 c.registers.i) ++ "\n"
      ++ Computer.dumpBytes c.registers
      ++ ("delay register: 0x" ++ Hex.padded 0 c.registers.delay) ++ "\n"
      ++ ("sound register: 0x" ++ Hex.padded 0 c.registers.sound) ++ "\n"
      ++ ("SP: 0x" ++ Hex.padded 0 c.registers.sp) ++ "\n"
      ++ "stack: [" ++ ", ".intercalate ((Computer.usedSlots c.registers).map fun slot ↦
        "0x" ++ Hex.padded 3 slot.toNat) ++ "]\n"
      ++ remark c ++ "\n\nRAM:\n"
      ++ String.join (Computer.dumpRows 0 c.memory.cells.toList) := rfl

/-- **The text of a dump.** -/
theorem toList_dump (c : Computer) :
    c.dump.toList = endedBy '\n' (header c) ++ ((remark c).toList ++ (['\n'] ++ (['\n'] ++ (mark ++
      (['\n'] ++ (String.join (Computer.dumpRows 0 c.memory.cells.toList)).toList))))) := by
  have hend : "\n".toList = ['\n'] := String.toList_ofList
  have hclose : "]\n".toList = [']'] ++ ['\n'] := String.toList_ofList
  have hmark : "\n\nRAM:\n".toList = ['\n'] ++ (['\n'] ++ (mark ++ ['\n'])) := by
    rw [mark_eq]
    exact String.toList_ofList
  have hslots : (", ".intercalate ((Computer.usedSlots c.registers).map fun slot ↦
      "0x" ++ Hex.padded 3 slot.toNat)).toList = slotList (Computer.usedSlots c.registers) := by
    have hslot : String.toList ∘ (fun slot : UInt16 ↦ "0x" ++ Hex.padded 3 slot.toNat) =
        fun slot ↦ valueLine "0x" 3 slot.toNat := funext fun slot ↦ String.toList_append
    rw [String.toList_intercalate, List.map_map, hslot]
    rfl
  have hnil : endedBy '\n' [] = [] := rfl
  have hstack : "stack: [".toList = stackLabel := rfl
  rw [dump_eq]
  simp only [String.toList_append, hend, hclose, hmark, hslots, toList_dumpBytes, header,
    endedBy_append, endedBy_cons, hnil, hstack, valueLine, stackLine, List.append_assoc,
    List.nil_append]

/-! ### No line has a line's end in it -/

theorem newline_not_mem_slotList (slots : List UInt16) : '\n' ∉ slotList slots := by
  have hslot (slot : UInt16) : '\n' ∉ valueLine "0x" 3 slot.toNat :=
    newline_not_mem_valueLine announces_zero_x 3 (Int.natCast_nonneg _)
  induction slots with
  | nil => exact List.not_mem_nil
  | cons slot slots ih =>
    cases slots with
    | nil =>
      rw [slotList_singleton]
      exact hslot slot
    | cons next slots =>
      rw [slotList_cons_cons]
      simp [hslot, ih]

theorem newline_not_mem_regEntry (r : Registers) (k : Reg) : '\n' ∉ regEntry r k :=
  newline_not_mem_valueLine (announces_reg k) 2 (Int.natCast_nonneg _)

theorem newline_not_mem_regLine (r : Registers) (k₀ k₁ k₂ k₃ : Reg) :
    '\n' ∉ regLine r k₀ k₁ k₂ k₃ := by
  simp [regLine, newline_not_mem_regEntry]

theorem newline_not_mem_stackLine (r : Registers) : '\n' ∉ stackLine r := by
  have hlabel : '\n' ∉ stackLabel := by decide
  simp [stackLine, hlabel, newline_not_mem_slotList]

theorem newline_not_mem_wordText (c : Computer) : '\n' ∉ (wordText c).toList := by
  rw [wordText]
  split
  · rename_i opcode _
    show '\n' ∉ ("0x" ++ Hex.padded 4 opcode).toList
    rw [String.toList_append]
    exact newline_not_mem_valueLine announces_zero_x 4 (Int.natCast_nonneg opcode)
  · simp

theorem newline_not_mem_header {c : Computer} (h : c.registers.InRange) :
    ∀ line ∈ header c, '\n' ∉ line := by
  have hregs : ∀ line ∈ regLines c.registers, '\n' ∉ line := by
    simp [regLines_eq, newline_not_mem_regLine]
  have hsp : 0 ≤ c.registers.sp := h.sp_range.elim And.left fun heq ↦ heq ▸ by decide
  simp only [header, List.forall_mem_append, List.forall_mem_cons, List.not_mem_nil,
    false_imp_iff, implies_true, and_true]
  refine ⟨⟨⟨?_, ?_, ?_⟩, hregs⟩, ?_, ?_, ?_, newline_not_mem_stackLine c.registers⟩
  · exact newline_not_mem_valueLine announces_pc 3 h.pc_nonneg
  · simp [newline_not_mem_wordText]
  · exact newline_not_mem_valueLine announces_i 3 h.i_nonneg
  · exact newline_not_mem_valueLine announces_delay 0 h.delay_nonneg
  · exact newline_not_mem_valueLine announces_sound 0 h.sound_nonneg
  · exact newline_not_mem_valueLine announces_sp 0 hsp

/-! ### The numbers of a line -/

theorem numbersIn_regEntry (r : Registers) (k : Reg) {rest : List Char} (hrest : Hex.Ends rest) :
    Hex.numbersIn (regEntry r k ++ rest) = (r.v.get k).toNat :: Hex.numbersIn rest :=
  numbersIn_valueLine (announces_reg k) 2 (Int.natCast_nonneg _) hrest

theorem numbersIn_regLine (r : Registers) (k₀ k₁ k₂ k₃ : Reg) :
    Hex.numbersIn (regLine r k₀ k₁ k₂ k₃) =
      [(r.v.get k₀).toNat, (r.v.get k₁).toNat, (r.v.get k₂).toNat, (r.v.get k₃).toNat] := by
  have htab (rest : List Char) : Hex.Ends ('\t' :: rest) := .cons (by decide) rest
  have hskip (rest : List Char) : Hex.numbersIn ('\t' :: rest) = Hex.numbersIn rest := rfl
  rw [regLine, numbersIn_regEntry r k₀ (htab _), hskip, numbersIn_regEntry r k₁ (htab _), hskip,
    numbersIn_regEntry r k₂ (htab _), hskip, ← List.append_nil (regEntry r k₃),
    numbersIn_regEntry r k₃ .nil]
  rfl

theorem numbersIn_regLines (r : Registers) :
    (regLines r).flatMap Hex.numbersIn = (List.finRange 16).map fun k ↦ (r.v.get k).toNat := by
  simp only [regLines_eq, List.flatMap_cons, List.flatMap_nil, numbersIn_regLine]
  rfl

theorem numbersIn_slotList (slots : List UInt16) :
    Hex.numbersIn (slotList slots ++ [']']) = slots.map UInt16.toNat := by
  have hread (slot : UInt16) {rest : List Char} (hrest : Hex.Ends rest) :
      Hex.numbersIn (valueLine "0x" 3 slot.toNat ++ rest) =
        slot.toNat :: Hex.numbersIn rest :=
    numbersIn_valueLine announces_zero_x 3 (Int.natCast_nonneg _) hrest
  induction slots with
  | nil => rfl
  | cons slot slots ih =>
    cases slots with
    | nil =>
      rw [slotList_singleton, hread slot (.cons (by decide) [])]
      rfl
    | cons next slots =>
      rw [slotList_cons_cons, List.append_assoc, List.cons_append,
        hread slot (.cons (by decide) _), List.map_cons, ← ih]
      rfl

theorem numbersIn_stackLine (r : Registers) :
    Hex.numbersIn (stackLine r) = (Computer.usedSlots r).map UInt16.toNat := by
  have hlabel : 'x' ∉ stackLabel := by decide
  rw [stackLine, Hex.numbersIn_append hlabel, numbersIn_slotList]

/-! ### The rows -/

/-- What stands in a row: its addresses and its bytes. -/
def rowLine (start : Nat) (row : List UInt8) : List Char :=
  valueLine "0x" 3 start ++ (valueLine " - 0x" 3 (start + 31 : Nat) ++
    (':' :: ' ' :: ' ' :: Hex.ofBytes row))

/-- All rows of a memory from an address on. -/
def rowLines (start : Nat) (bytes : List UInt8) : List (List Char) :=
  (List.range ((bytes.length + 31) / 32)).map fun k ↦
    rowLine (start + 32 * k) ((bytes.drop (32 * k)).take 32)

theorem rowLines_of_ne_nil {bytes : List UInt8} (h : bytes ≠ []) (start : Nat) :
    rowLines start bytes =
      rowLine start (bytes.take 32) :: rowLines (start + 32) (bytes.drop 32) := by
  have hpos : 0 < bytes.length := List.length_pos_of_ne_nil h
  have hcount : (bytes.length + 31) / 32 = ((bytes.drop 32).length + 31) / 32 + 1 := by
    rw [List.length_drop]
    omega
  rw [rowLines, hcount, List.range_succ_eq_map, List.map_cons, List.map_map, rowLines]
  refine congrArg₂ _ rfl (List.map_congr_left fun k _ ↦ ?_)
  have hstart : start + 32 * (k + 1) = start + 32 + 32 * k := by omega
  have hdrop : 32 * (k + 1) = 32 + 32 * k := by omega
  show rowLine (start + 32 * (k + 1)) ((bytes.drop (32 * (k + 1))).take 32) = _
  rw [hstart, hdrop, List.drop_drop]

theorem toList_dumpRow (start : Nat) (row : List UInt8) :
    (Computer.dumpRow start row).toList =
      rowLine start row ++ if row.length = 32 then ['\n'] else [] := by
  have hlabel : ":  ".toList = [':', ' ', ' '] := rfl
  have hbytes : (String.join (row.map Hex.byte)).toList = Hex.ofBytes row := by
    rw [String.toList_join, List.flatMap_map]
    rfl
  have hending : (if row.length = Computer.dumpRowSize then "\n" else "").toList =
      if row.length = 32 then ['\n'] else [] := by
    rw [Computer.dumpRowSize]
    split
    · rfl
    · rfl
  have hlast : ((start + 31 : Nat) : Int) = start + 31 := rfl
  rw [Computer.dumpRow, String.toList_append, String.toList_append, hending, hbytes]
  show ("0x" ++ Hex.padded 3 start ++ " - 0x" ++ Hex.padded 3 (start + 31) ++ ":  ").toList
    ++ Hex.ofBytes row ++ _ = _
  simp only [String.toList_append, hlabel, rowLine, valueLine, hlast, List.append_assoc,
    List.cons_append, List.nil_append]

theorem newline_not_mem_rowLine (start : Nat) (row : List UInt8) : '\n' ∉ rowLine start row := by
  have hfirst : '\n' ∉ valueLine "0x" 3 start :=
    newline_not_mem_valueLine announces_zero_x 3 (Int.natCast_nonneg start)
  have hlast : '\n' ∉ valueLine " - 0x" 3 (start + 31) :=
    newline_not_mem_valueLine announces_upTo 3 (Int.natCast_nonneg (start + 31))
  have hbytes : '\n' ∉ Hex.ofBytes row := fun h ↦ absurd (Hex.isDigit_of_mem_ofBytes h) (by decide)
  simp [rowLine, hfirst, hlast, hbytes]

/-- What stands behind the rows: the end of a full last row leaves an empty line. -/
def trailing (bytes : List UInt8) : List (List Char) :=
  if bytes.length % 32 = 0 then [[]] else []

theorem eq_nil_of_mem_trailing {bytes : List UInt8} {line : List Char} (h : line ∈ trailing bytes) :
    line = [] := by
  rw [trailing] at h
  split at h
  · exact List.mem_singleton.1 h
  · exact nomatch h

/-- **The rows are the lines of the memory's text.** -/
theorem splitAt_dumpRows (start : Nat) (bytes : List UInt8) :
    splitAt '\n' (String.join (Computer.dumpRows start bytes)).toList =
      rowLines start bytes ++ trailing bytes := by
  induction start, bytes using Computer.dumpRows.induct with
  | case1 start =>
    rw [Computer.dumpRows, if_pos rfl]
    rfl
  | case2 start bytes hne ih =>
    have hpos : 0 < bytes.length := List.length_pos_of_ne_nil hne
    have hsize : Computer.dumpRowSize = 32 := rfl
    simp only [hsize, trailing] at ih ⊢
    rw [Computer.dumpRows, if_neg hne, String.toList_join, List.flatMap_cons, ← String.toList_join,
      hsize, toList_dumpRow, rowLines_of_ne_nil hne, List.length_take]
    by_cases hfull : 32 ≤ bytes.length
    · have hmod : (bytes.drop 32).length % 32 = bytes.length % 32 := by
        rw [List.length_drop]
        omega
      rw [if_pos (Nat.min_eq_left hfull), List.append_assoc, List.singleton_append, splitAt_append,
        splitAt_of_not_mem (newline_not_mem_rowLine start _), ih, hmod]
      rfl
    · have hlast : bytes.drop 32 = [] := List.drop_eq_nil_of_le (by omega)
      rw [if_neg (by omega), if_neg (by omega), hlast, Computer.dumpRows, if_pos rfl,
        List.append_nil, List.append_nil]
      show splitAt '\n' (rowLine start (bytes.take 32) ++ []) = [rowLine start (bytes.take 32)]
      rw [List.append_nil, splitAt_of_not_mem (newline_not_mem_rowLine start _)]

theorem rowDigits_rowLine (start : Nat) (row : List UInt8) :
    rowDigits (rowLine start row) = Hex.ofBytes row := by
  have hfirst : ':' ∉ valueLine "0x" 3 start :=
    not_mem_valueLine rfl (by decide) 3 (Int.natCast_nonneg start)
  have hlast : ':' ∉ valueLine " - 0x" 3 (start + 31 : Nat) :=
    not_mem_valueLine rfl (by decide) 3 (Int.natCast_nonneg (start + 31))
  have hskip {cs rest : List Char} (h : ':' ∉ cs) :
      (cs ++ rest).dropWhile (· != ':') = rest.dropWhile (· != ':') :=
    List.dropWhile_append_of_pos fun c hc ↦ bne_iff_ne.2 fun heq ↦ h (heq ▸ hc)
  rw [rowDigits, rowLine, hskip hfirst, hskip hlast]
  rfl

theorem numbersIn_rowLine (start : Nat) (row : List UInt8) :
    Hex.numbersIn (rowLine start row) = [start, start + 31] := by
  have hbytes : 'x' ∉ ':' :: ' ' :: ' ' :: Hex.ofBytes row := by
    have hdigits : 'x' ∉ Hex.ofBytes row := fun h ↦
      absurd (Hex.isDigit_of_mem_ofBytes h) (by decide)
    simp [hdigits]
  have hends (cs : List Char) : Hex.Ends (valueLine " - 0x" 3 (start + 31 : Nat) ++ cs) :=
    .cons (c := ' ') rfl _
  rw [rowLine, numbersIn_valueLine announces_zero_x 3 (Int.natCast_nonneg start) (hends _),
    numbersIn_valueLine announces_upTo 3 (Int.natCast_nonneg _) (.cons rfl _),
    Hex.numbersIn_of_not_mem hbytes]
  rfl

theorem flatMap_rowDigits (start : Nat) (bytes : List UInt8) :
    (rowLines start bytes).flatMap rowDigits = Hex.ofBytes bytes := by
  induction start, bytes using Computer.dumpRows.induct with
  | case1 start => rfl
  | case2 start bytes hne ih =>
    rw [rowLines_of_ne_nil hne, List.flatMap_cons, rowDigits_rowLine]
    refine (congrArg (Hex.ofBytes (bytes.take 32) ++ ·) ih).trans ?_
    rw [Hex.ofBytes, Hex.ofBytes, ← List.flatMap_append]
    exact congrArg Hex.ofBytes (List.take_append_drop 32 bytes)

/-- What stands behind the last place of an element. -/
theorem reverse_takeWhile_reverse {α : Type} [BEq α] [LawfulBEq α] {a : α} {more : List α}
    (h : a ∉ more) (l : List α) :
    ((l ++ a :: more).reverse.takeWhile (· != a)).reverse = more := by
  have hmore : ∀ b ∈ more.reverse, (b != a) = true := fun b hb ↦
    bne_iff_ne.2 fun heq ↦ h (heq ▸ List.mem_reverse.1 hb)
  rw [List.reverse_append, List.reverse_cons, List.append_assoc,
    List.takeWhile_append_of_pos hmore, List.singleton_append,
    List.takeWhile_cons_of_neg (by simp), List.append_nil, List.reverse_reverse]

/-- **The rows of a dump are found**, whatever the remark on a fault says. -/
theorem rows_dump (c : Computer) : rows c.dump = rowLines 0 c.memory.cells.toList := by
  have hrow : ∀ line ∈ rowLines 0 c.memory.cells.toList, ∃ cs, line = '0' :: cs := by
    intro line hline
    obtain ⟨k, -, rfl⟩ := List.mem_map.1 hline
    exact ⟨_, rfl⟩
  have hmark : mark ∉ rowLines 0 c.memory.cells.toList ++ trailing c.memory.cells.toList := by
    intro h
    rcases List.mem_append.1 h with h | h
    · obtain ⟨cs, hcs⟩ := hrow mark h
      have hfirst : some 'R' = some '0' := congrArg List.head? hcs
      exact absurd hfirst (by decide)
    · exact absurd (eq_nil_of_mem_trailing h) (by decide)
  have hfull : (rowLines 0 c.memory.cells.toList).filter (· != []) =
      rowLines 0 c.memory.cells.toList := by
    refine List.filter_eq_self.2 fun line hline ↦ ?_
    obtain ⟨cs, rfl⟩ := hrow line hline
    rfl
  have hempty : (trailing c.memory.cells.toList).filter (· != []) = [] :=
    List.filter_eq_nil_iff.2 fun line hline ↦ by simp [eq_nil_of_mem_trailing hline]
  have htext : c.dump.toList = (endedBy '\n' (header c) ++ ((remark c).toList ++ ['\n'])) ++ '\n' ::
      (mark ++ '\n' :: (String.join (Computer.dumpRows 0 c.memory.cells.toList)).toList) := by
    rw [toList_dump]
    simp only [List.append_assoc, List.singleton_append]
  rw [rows, htext, splitAt_append, splitAt_append, splitAt_of_not_mem (by decide : '\n' ∉ mark),
    splitAt_dumpRows, List.singleton_append, reverse_takeWhile_reverse hmark, List.filter_append,
    hfull, hempty, List.append_nil]

/-! ### Reading back -/

/-- **A dump is read back.** -/
theorem read?_dump {c : Computer} (h : c.registers.InRange) : read? c.dump = some (shown c) := by
  have hsp : 0 ≤ c.registers.sp := h.sp_range.elim And.left fun heq ↦ heq ▸ by decide
  have hpc : Hex.numbersIn (valueLine "PC: 0x" 3 c.registers.pc) = [c.registers.pc.toNat] :=
    numbersIn_valueLine_self announces_pc 3 h.pc_nonneg
  have hi : Hex.numbersIn (valueLine "I: 0x" 3 c.registers.i) = [c.registers.i.toNat] :=
    numbersIn_valueLine_self announces_i 3 h.i_nonneg
  have hdelay : Hex.numbersIn (valueLine "delay register: 0x" 0 c.registers.delay) =
      [c.registers.delay.toNat] :=
    numbersIn_valueLine_self announces_delay 0 h.delay_nonneg
  have hsound : Hex.numbersIn (valueLine "sound register: 0x" 0 c.registers.sound) =
      [c.registers.sound.toNat] :=
    numbersIn_valueLine_self announces_sound 0 h.sound_nonneg
  have hsp : Hex.numbersIn (valueLine "SP: 0x" 0 c.registers.sp) = [c.registers.sp.toNat] :=
    numbersIn_valueLine_self announces_sp 0 hsp
  have hregs := numbersIn_regLines c.registers
  have hmemory : Hex.bytesOf ((rows c.dump).flatMap rowDigits) = c.memory.cells.toList := by
    rw [rows_dump, flatMap_rowDigits, Hex.bytesOf_ofBytes]
  rw [read?, toList_dump, splitAt_lines (newline_not_mem_header h)]
  simp only [header, regLines_eq, List.cons_append, List.nil_append, hmemory, hpc, hi, hdelay,
    hsound, hsp, numbersIn_stackLine]
  rw [regLines_eq] at hregs
  rw [hregs]
  rfl

end Dump

namespace Computer

variable {c : Computer} {r r' : Registers}

/-! ### What a dump determines -/

/-- The slots in use are slot 1 and those above it, up to the stack pointer. -/
theorem getElem?_usedSlots (r : Registers) {k : Nat} (hk : k < (min r.sp stackDepth).toNat) :
    (usedSlots r)[k]? = r.stack.toList[k + 1]? := by
  rw [usedSlots, List.getElem?_take_of_lt hk, List.getElem?_drop, Nat.add_comm]

theorem stack_eq_of_usedSlots_eq (hsp : r.sp = r'.sp) (h : usedSlots r = usedSlots r') {k : Fin 17}
    (hpos : 1 ≤ k.val) (hk : (k.val : Int) ≤ min r.sp 16) : r.stack.get k = r'.stack.get k := by
  have hlt : k.val - 1 < (min r.sp stackDepth).toNat := by
    rw [stackDepth]
    omega
  have hlt' : k.val - 1 < (min r'.sp stackDepth).toNat := hsp ▸ hlt
  have hslot := getElem?_usedSlots r hlt
  have hslot' := getElem?_usedSlots r' hlt'
  rw [h, hslot', Nat.sub_add_cancel hpos, Vector.getElem?_toList, Vector.getElem?_toList,
    Vector.getElem?_eq_getElem k.isLt, Vector.getElem?_eq_getElem k.isLt] at hslot
  exact (Option.some.inj hslot).symm

/-- A memory is known by its bytes. -/
theorem memory_eq_of_toList_eq {m m' : Memory} (hcap : 0 ≤ m.capacity) (hcap' : 0 ≤ m'.capacity)
    (h : m.cells.toList = m'.cells.toList) : m = m' := by
  have hcapacity : m.capacity.toNat = m'.capacity.toNat := by
    rw [← m.size_cells, ← m'.size_cells, ← Array.length_toList, h, Array.length_toList]
  refine Memory.ext ?_ (Array.toList_inj.1 h)
  rw [← Int.toNat_of_nonneg hcap, hcapacity, Int.toNat_of_nonneg hcap']

theorem toList_loop_ne_nil (bytes : ByteArray) (k : Nat) {found : List UInt8} (h : found ≠ []) :
    ByteArray.toList.loop bytes k found ≠ [] := by
  induction k, found using ByteArray.toList.loop.induct bytes with
  | case1 k found hlt ih =>
    rw [ByteArray.toList.loop, if_pos hlt]
    exact ih (List.cons_ne_nil _ _)
  | case2 k found hge =>
    rw [ByteArray.toList.loop, if_neg hge]
    exact List.reverse_ne_nil_iff.2 h

/-- A dump is never empty. -/
theorem bytes_dump_ne_nil (c : Computer) : c.dump.toUTF8.toList ≠ [] := by
  have htext : c.dump ≠ "" := by
    intro h
    have hfirst : c.dump.toList.head? = some 'P' := by
      rw [Dump.toList_dump]
      rfl
    rw [h] at hfirst
    exact absurd hfirst (by decide)
  have hsize : 0 < c.dump.toUTF8.size := Nat.pos_of_ne_zero fun h ↦
    htext (String.utf8ByteSize_eq_zero_iff.1 h)
  rw [ByteArray.toList, ByteArray.toList.loop, if_pos hsize]
  exact toList_loop_ne_nil _ 1 (List.cons_ne_nil _ _)

/-- **A dump is total and lossless.** It can be saved wherever a file can be written, and is found
there again; it is read back; its rows hold the memory, thirty-two bytes to a row but the last; and
computers with the same dump have all the same that it shows. -/
theorem dump_lossless (hc : c.registers.InRange) (hcap : 0 ≤ c.memory.capacity) :
    (∀ (d : Directory) (name : String), d.Writable name → ∃ d', c.saveDump d name = .ok d' ∧
        (d'.read name = .ok c.dump.toUTF8.toList ∨ d.locate name = .ok .nullDevice)) ∧
      Dump.read? c.dump = some (Dump.shown c) ∧
      (Dump.rows c.dump).length = (c.memory.capacity.toNat + 31) / 32 ∧
      (∀ k row, (Dump.rows c.dump)[k]? = some row →
        Hex.numbersIn row = [32 * k, 32 * k + 31] ∧
          Dump.rowDigits row = Hex.ofBytes ((c.memory.cells.toList.drop (32 * k)).take 32)) ∧
      Hex.bytesOf ((Dump.rows c.dump).flatMap Dump.rowDigits) = c.memory.cells.toList ∧
      ∀ c' : Computer, c'.registers.InRange → 0 ≤ c'.memory.capacity → c.dump = c'.dump →
        c.registers.pc = c'.registers.pc ∧ c.registers.i = c'.registers.i ∧
          c.registers.v = c'.registers.v ∧ c.registers.delay = c'.registers.delay ∧
          c.registers.sound = c'.registers.sound ∧ c.registers.sp = c'.registers.sp ∧
          (∀ k : Fin 17, 1 ≤ k.val → (k.val : Int) ≤ min c.registers.sp 16 →
            c.registers.stack.get k = c'.registers.stack.get k) ∧
          c.memory = c'.memory := by
  have hread := Dump.read?_dump hc
  have hrows := Dump.rows_dump c
  have hsize : c.memory.cells.toList.length = c.memory.capacity.toNat := c.memory.size_cells
  refine ⟨fun d name hwritable ↦ ?_, hread, ?_, fun k row hrow ↦ ?_, ?_, fun c' hc' hcap' heq ↦ ?_⟩
  · obtain ⟨d', hwrite⟩ := hwritable c.dump.toUTF8.toList
    exact ⟨d', hwrite, Directory.read_of_write (bytes_dump_ne_nil c) hwrite⟩
  · rw [hrows, Dump.rowLines, List.length_map, List.length_range, hsize]
  · rw [hrows, Dump.rowLines, List.getElem?_map] at hrow
    obtain ⟨k', hk', rfl⟩ := Option.map_eq_some_iff.1 hrow
    obtain ⟨hlt, hget⟩ := List.getElem?_eq_some_iff.1 hk'
    rw [List.getElem_range] at hget
    rw [← hget, Nat.zero_add]
    exact ⟨Dump.numbersIn_rowLine _ _, Dump.rowDigits_rowLine _ _⟩
  · rw [hrows, Dump.flatMap_rowDigits, Hex.bytesOf_ofBytes]
  · have hshown : Dump.shown c = Dump.shown c' := by
      have hread' := Dump.read?_dump hc'
      rw [← heq, hread] at hread'
      exact Option.some.inj hread'
    simp only [Dump.shown, Dump.Shown.mk.injEq] at hshown
    obtain ⟨hpc, hi, hv, hdelay, hsound, hsp, hslots, hmemory⟩ := hshown
    have hsp' : c.registers.sp = c'.registers.sp := by
      have h := hc.sp_range
      have h' := hc'.sp_range
      omega
    have hslots' : usedSlots c.registers = usedSlots c'.registers :=
      (List.map_inj_right fun _ _ ↦ UInt16.toNat_inj.1).1 hslots
    refine ⟨?_, ?_, ?_, ?_, ?_, hsp', fun k ↦ stack_eq_of_usedSlots_eq hsp' hslots',
      memory_eq_of_toList_eq hcap hcap' hmemory⟩
    · rw [← Int.toNat_of_nonneg hc.pc_nonneg, hpc, Int.toNat_of_nonneg hc'.pc_nonneg]
    · rw [← Int.toNat_of_nonneg hc.i_nonneg, hi, Int.toNat_of_nonneg hc'.i_nonneg]
    · refine Vector.ext fun k hk ↦ ?_
      exact UInt8.toNat_inj.1 (List.map_inj_left.1 hv ⟨k, hk⟩ (List.mem_finRange _))
    · rw [← Int.toNat_of_nonneg hc.delay_nonneg, hdelay, Int.toNat_of_nonneg hc'.delay_nonneg]
    · rw [← Int.toNat_of_nonneg hc.sound_nonneg, hsound, Int.toNat_of_nonneg hc'.sound_nonneg]

/-- A computer behind a return on an empty stack, with a program counter beyond its memory. -/
def strayed : Computer :=
  { plain
      { v := Vector.ofFn fun k ↦ UInt8.ofNat (17 * k.val)
        i := 0x1234
        pc := 0xFFFE
        sp := 255
        stack := setAt (Vector.replicate 17 0) ⟨16, by decide⟩ 0xABC
        delay := 255
        sound := 7 } (.blank 80) with
    lastFault := some { cause := .badReturn } }

theorem inRange_strayed : strayed.registers.InRange where
  pc_nonneg := by decide
  pc_le := by decide
  i_nonneg := by decide
  i_le := by decide
  sp_range := .inr rfl
  bottom_eq := by decide
  delay_nonneg := by decide
  delay_le := by decide
  sound_nonneg := by decide
  sound_le := by decide

/-- Its dump, of three rows, tells it from every computer that differs in what is shown; from one
that only waits for a key it is not told. -/
theorem dump_lossless_strayed :
    (strayed.registers.InRange ∧ 0 ≤ strayed.memory.capacity) ∧
      (({} : Directory).Writable "d.txt" ∧ ∃ d', strayed.saveDump {} "d.txt" = .ok d' ∧
        (d'.read "d.txt" = .ok strayed.dump.toUTF8.toList ∨
          ({} : Directory).locate "d.txt" = .ok .nullDevice)) ∧
      Dump.read? strayed.dump = some (Dump.shown strayed) ∧
      (Dump.rows strayed.dump).length = 3 ∧
      (∃ row, (Dump.rows strayed.dump)[2]? = some row ∧ Hex.numbersIn row = [64, 95] ∧
        Dump.rowDigits row = Hex.ofBytes (List.replicate 16 0)) ∧
      ({ strayed with waiting := true } : Computer).dump = strayed.dump ∧
      strayed.registers.sp = ({ strayed with waiting := true } : Computer).registers.sp := by
  have hcap : 0 ≤ strayed.memory.capacity := by decide
  have hwritable : ({} : Directory).Writable "d.txt" :=
    Directory.writable_of_write (List.cons_ne_nil 0 []) rfl
  obtain ⟨hsave, hread, hlength, hrows, -, hdump⟩ := dump_lossless inRange_strayed hcap
  have hlast : 2 < (Dump.rows strayed.dump).length := by
    rw [hlength]
    decide
  have hrow := List.getElem?_eq_getElem hlast
  refine ⟨⟨inRange_strayed, hcap⟩, ⟨hwritable, hsave _ _ hwritable⟩, hread, hlength,
    ⟨_, hrow, hrows 2 _ hrow⟩, rfl, ?_⟩
  obtain ⟨-, -, -, -, -, hsp, -⟩ := hdump { strayed with waiting := true } inRange_strayed hcap rfl
  exact hsp

end Computer

end ChipEight
