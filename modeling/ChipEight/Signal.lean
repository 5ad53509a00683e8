import ChipEight.Fault
import ChipEight.Platform
import ChipEight.Registers.Overlay

/-!
# Signals to the host

While it works, the machine tells the host two kinds of things: that the **sound** should be on or
off, and **notices** for the log. Neither changes the machine. Signals are kept in the order in
which they were sent.

A notice is kept as what it says, not as text, so that a run can be compared with another one
without reading its log; `Notice.text` and `Notice.level` give the written form.
-/

namespace ChipEight

/-- How important a notice is. -/
inductive Level where
  | debug
  | info
  | warning
  | error
  deriving DecidableEq, Repr, Inhabited

namespace Level

/-- A number that orders the levels. -/
def rank : Level → Nat
  | debug => 10
  | info => 20
  | warning => 30
  | error => 40

def name : Level → String
  | debug => "DEBUG"
  | info => "INFO"
  | warning => "WARNING"
  | error => "ERROR"

/-- All levels, the least important first. -/
def all : List Level := [debug, info, warning, error]

/-- A level by its name in capitals. -/
def ofName? (s : String) : Option Level := all.find? fun l ↦ l.name == s

end Level

/-- A remark for the log. -/
inductive Notice where
  /-- The command has started. -/
  | started
  /-- A program is about to be read. -/
  | loading (name : String) (platform : Platform)
  /-- A program of this many bytes is in memory. -/
  | loaded (size : Nat)
  /-- The program could not be loaded, and the command gives up. -/
  | loadFailed (reason : String)
  /-- There will be no sound. -/
  | noSound (reason : String)
  /-- The main loop begins. -/
  | running
  /-- The user asked for a reset. -/
  | softReset
  /-- The program switched to the high-resolution mode. -/
  | highResolution
  /-- A call of the first machines' own code was passed over. -/
  | sysIgnored (opcode pc : Int)
  /-- An instruction was carried out and left these registers. -/
  | executed (opcode : Int) (registers : Registers) (waiting : Bool)
  /-- An instruction faulted. -/
  | faulted (fault : Fault)
  /-- The command gives up because of a fault. -/
  | executionFailed (fault : Fault)
  /-- The user closed the window. -/
  | windowClosed
  /-- The user stopped the command. -/
  | interrupted
  deriving DecidableEq, Repr

namespace Notice

def level : Notice → Level
  | loadFailed _ => .error
  | noSound _ => .warning
  | executed .. => .debug
  | faulted _ => .error
  | executionFailed _ => .error
  | _ => .info

def text : Notice → String
  | started => "CHIP-8"
  | loading name platform => s!"Loading program \"" ++ name ++ s!"\" ({platform.label})"
  | loaded size => s!"Program load successful! (Size: {size}B)"
  | loadFailed reason => s!"Program load error - exiting: {reason}"
  | noSound reason => s!"No sound: {reason}"
  | running => "Running program..."
  | softReset => "Performing soft reset..."
  | highResolution => "Program is initializing hi-res mode"
  | sysIgnored opcode pc =>
    s!"Ignoring SYS instruction: 0x{Hex.padded 4 opcode} (PC: 0x{Hex.padded 3 pc})"
  | executed opcode registers waiting =>
    s!"Executed 0x{Hex.padded 4 opcode}" ++ "\n" ++ registers.overlay opcode waiting
  | faulted fault => s!"Execution fault: {fault.text}"
  | executionFailed fault => s!"Program execution error - exiting: {fault.text}"
  | windowClosed => "Window closed - exiting."
  | interrupted => "Execution halted by the user"

end Notice

/-- The name of a sound sink. -/
abbrev Sink := Int

/-- Something the machine tells the host. -/
inductive Signal where
  /-- A sink should sound, or be silent. -/
  | sound (sink : Sink) (on : Bool)
  /-- A remark for the log. -/
  | notice (n : Notice)
  deriving DecidableEq, Repr

namespace Signal

/-- The call that a signal is for a sink. -/
def sound? : Signal → Option (Sink × Bool)
  | sound sink on => some (sink, on)
  | notice _ => none

/-- The remark that a signal is. -/
def notice? : Signal → Option Notice
  | sound .. => none
  | notice n => some n

/-- Tells a sink, if there is one. -/
def tell (sink : Option Sink) (on : Bool) : List Signal :=
  match sink with
  | none => []
  | some s => [sound s on]

end Signal

end ChipEight
