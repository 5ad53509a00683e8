import ChipEight.Console

/-!
# Keys of the host

The host's keys are known by their codes. A **key map** says which of them stand for keys of the
keypad; it is built from two layouts of the same shape, rows of host keys and rows of keypad codes,
by laying one over the other. The standard map puts the keypad on the left-hand block of a keyboard:

```
1 2 3 4        1 2 3 C
q w e r        4 5 6 D
a s d f        7 8 9 E
z x c v        A 0 B F
```

Two more host keys have a meaning of their own: F11 resets the program, if there is one, and F1
shows or hides the register overlay.
-/

namespace ChipEight

/-- Which host keys stand for which keypad codes. -/
structure KeyMap where
  /-- Host key and keypad code, no host key twice, in ascending order of the host keys. -/
  entries : List (Int × Int)
  deriving DecidableEq, Repr

namespace KeyMap

/-- An entry put in its place; it replaces one for the same host key. -/
def insert (entry : Int × Int) : List (Int × Int) → List (Int × Int)
  | [] => [entry]
  | old :: rest =>
    if entry.1 < old.1 then entry :: old :: rest
    else if entry.1 = old.1 then entry :: rest
    else old :: insert entry rest

/-- Two layouts laid over each other, row by row and key by key. What has no counterpart is left
out, and of two entries for one host key the later one counts. -/
def build (keyboard keypad : List (List Int)) : KeyMap :=
  let pairs := (keyboard.zip keypad).flatMap fun (keys, codes) ↦ keys.zip codes
  ⟨pairs.foldl (fun entries entry ↦ insert entry entries) []⟩

/-- The keypad code that a host key stands for. -/
def get? (m : KeyMap) (key : Int) : Option Int :=
  (m.entries.find? fun entry ↦ entry.1 == key).map (·.2)

/-- The code of a host key that is a letter or a digit. -/
def keyOf (c : Char) : Int := c.toNat

/-- The host keys of the standard map. -/
def standardKeyboard : List (List Int) :=
  ["1234", "qwer", "asdf", "zxcv"].map fun row ↦ row.toList.map keyOf

/-- The keypad's codes, as its keys are laid out. -/
def keypadLayout : List (List Int) :=
  [[0x1, 0x2, 0x3, 0xC], [0x4, 0x5, 0x6, 0xD], [0x7, 0x8, 0x9, 0xE], [0xA, 0x0, 0xB, 0xF]]

/-- The standard map. -/
def standard : KeyMap := build standardKeyboard keypadLayout

end KeyMap

/-- The host key that resets the program. -/
def resetKey : Int := 1073741892

/-- The host key that shows or hides the register overlay. -/
def overlayKey : Int := 1073741882

/-- Something that happened at the host's window. -/
inductive Event where
  | keyDown (key : Int)
  | keyUp (key : Int)
  | quit
  /-- Anything that does not matter here. -/
  | other
  deriving DecidableEq, Repr

namespace Console

/-- The console after a change of its keypad that the keypad may refuse. -/
def changeKeypad (c : Console) (pad : Except HostError Keypad) : Outcome Failure Console :=
  match pad with
  | .ok pad => .done (c.setKeypad pad)
  | .error e => ⟨c, [], some (.halted (.host e))⟩

/-- What an event does to a console. A request to quit is nothing to the console itself. -/
def handle (c : Console) : Event → Outcome Failure Console
  | .keyDown key =>
    if key = resetKey then if c.isLoaded then c.softReset else .done c
    else if key = overlayKey then .done (c.setDebug !c.debug)
    else match KeyMap.standard.get? key with
      | some code => c.changeKeypad (c.keypad.press code)
      | none => .done c
  | .keyUp key =>
    match KeyMap.standard.get? key with
    | some code => c.changeKeypad (c.keypad.release code)
    | none => .done c
  | .quit => .done c
  | .other => .done c

end Console

end ChipEight
