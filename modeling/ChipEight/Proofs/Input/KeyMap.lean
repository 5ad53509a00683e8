import ChipEight.Input.KeyMap
import Mathlib.Data.List.Induction
import Mathlib.Data.List.Nodup

/-!
# Which host key stands for which code

A key map is built by laying two layouts over each other, entry after entry, and what it knows of a
host key is **the last entry for that key** (`get?_build`). So in a layout that names no host key
twice every entry counts (`get?_build_eq_some_iff`).

The standard layouts name no host key and no code twice, and their codes are those of the keypad. So
each of the sixteen codes has **one host key and no other** (`exists_isHostKeyOf`), and the two keys
with a meaning of their own stand for no code.
-/

namespace ChipEight.KeyMap

variable {keyboard keypad : List (List Int)} {key code : Int}

/-! ### Maps built from layouts -/

/-- The entries of two layouts that are laid over each other. -/
def overlaid (keyboard keypad : List (List Int)) : List (Int × Int) :=
  (keyboard.zip keypad).flatMap fun (keys, codes) ↦ keys.zip codes

theorem get?_cons (entry : Int × Int) (entries : List (Int × Int)) (key : Int) :
    (KeyMap.mk (entry :: entries)).get? key =
      if key = entry.1 then some entry.2 else (KeyMap.mk entries).get? key := by
  by_cases heq : key = entry.1
  · simp [get?, heq]
  · simp [get?, heq, Ne.symm heq]

/-- **An entry counts for its own key**, and for no other. -/
theorem get?_insert (entry : Int × Int) (entries : List (Int × Int)) (key : Int) :
    (KeyMap.mk (insert entry entries)).get? key =
      if key = entry.1 then some entry.2 else (KeyMap.mk entries).get? key := by
  induction entries with
  | nil => exact get?_cons entry [] key
  | cons old rest ih =>
    rw [insert]
    split
    · exact get?_cons entry (old :: rest) key
    · split
      · next hsame =>
        -- The old entry was for the same host key, and it is gone.
        rw [get?_cons, get?_cons, ← hsame]
        split <;> rfl
      · next hother =>
        rw [get?_cons, get?_cons, ih]
        split
        · next hold => rw [if_neg fun heq ↦ hother (heq.symm.trans hold)]
        · rfl

/-- **Of the entries for a host key the last one counts.** -/
theorem get?_build (keyboard keypad : List (List Int)) (key : Int) :
    (build keyboard keypad).get? key =
      ((overlaid keyboard keypad).reverse.find? fun entry ↦ entry.1 == key).map (·.2) := by
  have hfold : ∀ entries : List (Int × Int),
      (KeyMap.mk (entries.foldl (fun entries entry ↦ insert entry entries) [])).get? key =
        (entries.reverse.find? fun entry ↦ entry.1 == key).map (·.2) := by
    intro entries
    induction entries using List.reverseRecOn with
    | nil => rfl
    | append_singleton entries entry ih =>
      rw [List.foldl_concat, get?_insert, ih, List.reverse_concat]
      by_cases heq : key = entry.1
      · simp [heq]
      · simp [heq, Ne.symm heq]
  exact hfold (overlaid keyboard keypad)

/-- **If no host key comes twice, every entry counts.** -/
theorem get?_build_eq_some_iff (h : ((overlaid keyboard keypad).map Prod.fst).Nodup) :
    (build keyboard keypad).get? key = some code ↔ (key, code) ∈ overlaid keyboard keypad := by
  -- an entry that is found is one for the host key that was looked up
  have hfind : ∀ {entry}, (overlaid keyboard keypad).reverse.find? (fun entry ↦ entry.1 == key) =
      some entry → entry ∈ overlaid keyboard keypad ∧ entry.1 = key := fun hfound ↦
    ⟨List.mem_reverse.1 (List.mem_of_find?_eq_some hfound), by simpa using List.find?_some hfound⟩
  rw [get?_build, Option.map_eq_some_iff]
  constructor
  · rintro ⟨entry, hfound, rfl⟩
    obtain ⟨hmem, rfl⟩ := hfind hfound
    exact hmem
  · intro hmem
    have hsome : ((overlaid keyboard keypad).reverse.find? fun entry ↦ entry.1 == key).isSome :=
      List.find?_isSome.2 ⟨_, List.mem_reverse.2 hmem, beq_self_eq_true key⟩
    obtain ⟨entry, hfound⟩ := Option.isSome_iff_exists.1 hsome
    obtain ⟨hentry, hkey⟩ := hfind hfound
    have hsame : entry = (key, code) := List.inj_on_of_nodup_map h hentry hmem hkey
    exact ⟨entry, hfound, congrArg Prod.snd hsame⟩

/-! ### The standard map -/

/-- What is laid over each other in the standard map names no host key twice. -/
theorem nodup_fst_standard : ((overlaid standardKeyboard keypadLayout).map Prod.fst).Nodup := by
  decide

/-- Nor does it name a code twice. -/
theorem nodup_snd_standard : ((overlaid standardKeyboard keypadLayout).map Prod.snd).Nodup := by
  decide

/-- The codes of the standard map are those of the keypad. -/
theorem mem_codes_standard :
    ∀ code : Fin 16, (code.val : Int) ∈ (overlaid standardKeyboard keypadLayout).map Prod.snd := by
  decide

/-- And there are no others. -/
theorem exists_eq_of_get?_standard (h : standard.get? key = some code) :
    ∃ k : Fin 16, code = k.val := by
  have hall : ∀ entry ∈ overlaid standardKeyboard keypadLayout, ∃ k : Fin 16, entry.2 = k.val := by
    decide
  exact hall _ ((get?_build_eq_some_iff nodup_fst_standard).1 h)

/-- The host key stands for the code in the standard map, and no other host key does. -/
def IsHostKeyOf (key : Int) (code : Fin 16) : Prop :=
  ∀ k, standard.get? k = some (code.val : Int) ↔ k = key

/-- **Each code has one host key and no other.** -/
theorem exists_isHostKeyOf (code : Fin 16) : ∃ key, IsHostKeyOf key code := by
  obtain ⟨⟨key, _⟩, hmem, rfl⟩ := List.mem_map.1 (mem_codes_standard code)
  refine ⟨key, fun k ↦ ?_⟩
  rw [standard, get?_build_eq_some_iff nodup_fst_standard]
  constructor
  · exact fun hk ↦ congrArg Prod.fst (List.inj_on_of_nodup_map nodup_snd_standard hk hmem rfl)
  · rintro rfl
    exact hmem

/-- The key that resets the program stands for no code. -/
theorem get?_resetKey : standard.get? resetKey = none := by
  decide

/-- Nor does the key for the overlay. -/
theorem get?_overlayKey : standard.get? overlayKey = none := by
  decide

end ChipEight.KeyMap
