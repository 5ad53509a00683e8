import ChipEight.Computer.Basic
import ChipEight.Instruction

/-!
# Carrying out one instruction

`perform` is the effect of one decoded instruction; `execute` decodes a word first. The **program
counter** is moved on by the instruction itself: by two bytes, by four when a skip's condition
holds, to a target for jumps, calls and returns, and not at all while a key is awaited.

Instructions that touch a run of memory stop at the first address that faults. What they did before
it stays done: stored bytes, loaded registers, drawn rows and the collision flag of those rows.
-/

namespace ChipEight.Computer

/-! ### Small changes -/

/-- A byte register's value. -/
def v (c : Computer) (x : Reg) : UInt8 := c.registers.v.get x

def setV (c : Computer) (x : Reg) (value : UInt8) : Computer :=
  { c with registers := c.registers.setV x value }

/-- Sets the flag register to one or zero. -/
def setFlag (c : Computer) (flag : Bool) : Computer := c.setV flagReg (if flag then 1 else 0)

def setI (c : Computer) (i : Int) : Computer := { c with registers := { c.registers with i := i } }

/-- On to the next instruction. -/
def next (c : Computer) : Computer := { c with registers := c.registers.next }

/-- On to an instruction elsewhere. -/
def jump (c : Computer) (pc : Int) : Computer := { c with registers := c.registers.jump pc }

/-! ### The larger instructions -/

/-- A return. The slot holds the address of the call itself, so the program goes on behind it. The
pointer is checked before it is lowered: a return on an empty stack reads slot 0 and **leaves the
pointer at 255**, and it is the next return that faults. -/
def doReturn (c : Computer) : Outcome Halt Computer :=
  let r := c.registers
  if (stackDepth : Int) < r.sp then .faulted c .badReturn
  else match signedIndex? 17 r.sp with
    | none => .refused c .badIndex
    | some slot =>
      .done { c with registers := { r with
        pc := wrap16 ((r.stack.get slot).toNat + 2)
        sp := (r.sp - 1) % 256 } }

/-- A call. The pointer is raised before the address is stored. -/
def doCall (c : Computer) (target : Target) : Outcome Halt Computer :=
  let r := c.registers
  if (stackDepth : Int) ≤ r.sp then .faulted c (.noRoomForCall target)
  else
    let raised := { r with sp := r.sp + 1 }
    match raised.pokeSlot raised.sp r.pc with
    | .error e => .refused { c with registers := raised } e
    | .ok stored => .done { c with registers := stored.jump target }

/-- A jump. At the very beginning of a standard program, and only there, a jump to `0x260` is the
sign of a high-resolution program: the screen grows to 64 rows and the program goes on at `0x2C0`.
-/
def doJump (c : Computer) (target : Target) : Outcome Halt Computer :=
  if c.config.hiresSwitch ∧ c.registers.pc = 0x200 ∧ target.val = 0x260 then
    .noted ({ c with hires := true, screen := .highResolution }.jump 0x2C0) .highResolution
  else .done (c.jump target)

/-- Whether a skip's condition holds. -/
def meets (c : Computer) : Condition → Bool
  | .equalsByte x k => c.v x == k
  | .differsFromByte x k => c.v x != k
  | .equals x y => c.v x == c.v y
  | .differs x y => c.v x != c.v y
  | .keyDown x => c.keypad.holds (c.v x)
  | .keyUp x => !c.keypad.holds (c.v x)

/-- An arithmetic instruction. **The flag is written first**, and the operands of the result are
read after it, so a flag register that is also an operand enters the result with its new value. -/
def doArithmetic (c : Computer) (a : Arithmetic) (x y : Reg) : Computer :=
  let c := match a.flag? (c.v x) (c.v y) with
    | none => c
    | some flag => c.setFlag flag
  c.setV x (a.result (c.v x) (c.v y))

/-- A random byte under a mask. -/
def doRandom (c : Computer) (x : Reg) (mask : UInt8) : Computer :=
  let (byte, random) := c.random.nextByte
  { c with random := random }.setV x (byte &&& mask)

/-- Draws the sprite at `I`. The coordinates are read before the flag is cleared, so the flag
register can be one of them. -/
def doDraw (c : Computer) (x y : Reg) (rows : Fin 16) : Outcome Halt Computer :=
  let left := (c.v x).toNat
  let top := (c.v y).toNat
  let addresses := (List.range rows).map fun (k : Nat) ↦ wrap16 (c.registers.i + k)
  let (bytes, cause) := c.memory.readAll addresses
  -- The rows in front of an address that faults are drawn, and count for the flag.
  match c.screen.plotAll (Screen.spritePoints left top bytes) with
  | .error e => .refused (c.setFlag false) e
  | .ok (screen, hit) =>
    let c := { c with screen := screen }.setFlag hit
    match cause with
    | some cause => .faulted c cause
    | none => .done c.next

/-- The delay register's value, which has to fit a byte register. -/
def doGetDelay (c : Computer) (x : Reg) : Outcome Halt Computer :=
  match Registers.byte? c.registers.delay with
  | none => .refused c .outOfRange
  | some b => .done (c.setV x b).next

/-- Waits for a key: the instruction runs again until one is down, and takes the lowest. -/
def doAwaitKey (c : Computer) (x : Reg) : Computer :=
  match c.keypad.lowest with
  | none => { c with waiting := true }
  | some key => { c with waiting := false }.setV x (UInt8.ofNat key) |>.next

/-- Goes on behind an instruction that stored a run of bytes, if the run got to its end. -/
def afterStore (c : Computer) (run : Memory × Option Fault.Cause) : Outcome Halt Computer :=
  let c := { c with memory := run.1 }
  match run.2 with
  | some cause => .faulted c cause
  | none => .done c.next

/-- The addresses `I, I + 1, …` of a block, wrapped to sixteen bits, each with its byte. -/
def blockAt (i : Int) (bytes : List UInt8) : List (Int × UInt8) :=
  bytes.zipIdx.map fun (byte, k) ↦ (wrap16 (i + k), byte)

/-- Stores the three decimal digits of a register. The first address is taken as it is. -/
def doStoreDigits (c : Computer) (x : Reg) : Outcome Halt Computer :=
  let value := (c.v x).toNat
  let i := c.registers.i
  c.afterStore <| c.memory.writeAll
    [(i, UInt8.ofNat (value / 100)),
      (wrap16 (i + 1), UInt8.ofNat (value % 100 / 10)),
      (wrap16 (i + 2), UInt8.ofNat (value % 10))]

/-- Stores the registers `V0` to `Vx`. -/
def doStoreRegisters (c : Computer) (x : Reg) : Outcome Halt Computer :=
  c.afterStore <| c.memory.writeAll (blockAt c.registers.i (c.registers.v.toList.take (x + 1)))

/-- Loads the registers `V0` to `Vx`. -/
def doLoadRegisters (c : Computer) (x : Reg) : Outcome Halt Computer :=
  let addresses := (List.range (x + 1)).map fun (k : Nat) ↦ wrap16 (c.registers.i + k)
  let (bytes, cause) := c.memory.readAll addresses
  let c := { c with registers := c.registers.setFirst bytes }
  match cause with
  | some cause => .faulted c cause
  | none => .done c.next

/-! ### All instructions -/

/-- The effect of an instruction. The word it was decoded from is only named in notices. -/
def perform (c : Computer) (opcode : Int) : Instruction → Outcome Halt Computer
  | .clearScreen => .done { c with screen := c.screen.clear }.next
  | .ret => c.doReturn
  | .sys => .noted c.next (.sysIgnored opcode c.registers.pc)
  | .jump target => c.doJump target
  | .call target => c.doCall target
  | .skip condition => .done (if c.meets condition then c.next.next else c.next)
  | .setByte x k => .done (c.setV x k).next
  | .addByte x k => .done (c.setV x (c.v x + k)).next
  | .arithmetic a x y => .done (c.doArithmetic a x y).next
  | .setI target => .done (c.setI target).next
  | .jumpPlusV0 target => .done (c.jump (target + (c.v firstReg).toNat))
  | .random x mask => .done (c.doRandom x mask).next
  | .draw x y rows => c.doDraw x y rows
  | .getDelay x => c.doGetDelay x
  | .awaitKey x => .done (c.doAwaitKey x)
  | .setDelay x =>
    .done { c with registers := { c.registers with delay := (c.v x).toNat } }.next
  | .setSound x =>
    .done { c with registers := { c.registers with sound := (c.v x).toNat } }.next
  | .addToI x => .done (c.setI (wrap16 (c.registers.i + (c.v x).toNat))).next
  | .fontSprite x => .done (c.setI (Font.start + (c.v x).toNat * Font.height : Nat)).next
  | .storeDigits x => c.doStoreDigits x
  | .storeRegisters x => c.doStoreRegisters x
  | .loadRegisters x => c.doLoadRegisters x

/-- Carries out a word. The number is read by its low sixteen bits; **one below `-65536` or above
`65535` names no family** and is refused. -/
def execute (c : Computer) (opcode : Int) : Outcome Halt Computer :=
  if opcode < -65536 ∨ 65536 ≤ opcode then .refused c .badIndex
  else match Instruction.decode (opcode % 65536).toNat with
    | none => .faulted c (.unknownOpcode opcode)
    | some instruction => c.perform opcode instruction

end ChipEight.Computer
