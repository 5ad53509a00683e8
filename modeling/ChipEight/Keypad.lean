import ChipEight.HostError
import ChipEight.Table

/-!
# The keypad

Sixteen keys, each up or down:

```
1 2 3 C
4 5 6 D
7 8 9 E
A 0 B F
```

The host presses and releases them; the machine only asks. The host's codes are **signed
positions**, so `-1` names key `F`; asking for a code of sixteen or more is allowed and answers that
the key is up, because a register can hold such a code.
-/

namespace ChipEight

/-- Which of the sixteen keys are down. -/
structure Keypad where
  down : Vector Bool 16
  deriving DecidableEq, Repr

namespace Keypad

/-- Every key up. -/
def allUp : Keypad := ⟨Vector.replicate 16 false⟩

instance : Inhabited Keypad := ⟨allUp⟩

/-- The key that a code names. -/
def key (code : Int) : Except HostError (Fin 16) :=
  match signedIndex? 16 code with
  | some k => .ok k
  | none => .error .badIndex

/-- The keypad with one key put up or down. -/
def set (pad : Keypad) (k : Fin 16) (isDown : Bool) : Keypad := ⟨setAt pad.down k isDown⟩

def press (pad : Keypad) (code : Int) : Except HostError Keypad :=
  (key code).map fun k ↦ pad.set k true

def release (pad : Keypad) (code : Int) : Except HostError Keypad :=
  (key code).map fun k ↦ pad.set k false

/-- Whether a key is down. No key has a code of sixteen or more. -/
def isDown (pad : Keypad) (code : Int) : Except HostError Bool :=
  if 16 ≤ code then .ok false else (key code).map fun k ↦ pad.down.get k

/-- Whether the key named by a register's value is down. -/
def holds (pad : Keypad) (code : UInt8) : Bool :=
  if h : code.toNat < 16 then pad.down.get ⟨code.toNat, h⟩ else false

/-- The lowest key that is down. -/
def lowest (pad : Keypad) : Option (Fin 16) := (List.finRange 16).find? fun k ↦ pad.down.get k

/-! ### Laws -/

/-- A register's value can always be asked for. -/
theorem isDown_toNat (pad : Keypad) (code : UInt8) :
    pad.isDown code.toNat = .ok (pad.holds code) := by
  unfold isDown holds key
  by_cases h : code.toNat < 16
  · rw [if_neg (by omega), dif_pos h, signedIndex?_natCast h]
    rfl
  · rw [if_pos (by omega), dif_neg h]

@[simp] theorem down_set (pad : Keypad) (k j : Fin 16) (b : Bool) :
    (pad.set k b).down.get j = if k = j then b else pad.down.get j :=
  get_setAt pad.down k j b

end Keypad

end ChipEight
