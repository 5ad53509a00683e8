import ChipEight.Computer.Execute

/-!
# Stepping

A step fetches the word at the program counter, carries it out and then lets the timer see the
clock. **While a key is awaited the timer stands still**: the clock is not even read.

A fault anywhere in a step is remembered, reported with the place where the machine stands, and ends
the step before the timer. A step that the host refuses ends too, but is no fault of the program and
is neither remembered nor reported. A clock without an answer is such a refusal; the instruction has
been carried out by then.
-/

namespace ChipEight.Computer

/-- Remembers and reports a fault. -/
def recordFault (c : Computer) (cause : Fault.Cause) (opcode : Option Int) :
    Outcome Halt Computer :=
  let fault : Fault := { cause, context := some (c.context opcode) }
  { state := { c with lastFault := some fault }
    signals := [.notice (.faulted fault)]
    halt := some (.fault fault) }

/-- The computer's timer, with the registers, the clock and the sink that belong to it. -/
def countdown (c : Computer) : Countdown Binary64 := ⟨c.registers, c.timer, c.clock, c.timerSink⟩

/-- The computer with another state of its timer, and of the registers and the clock. -/
def withCountdown (c : Computer) (k : Countdown Binary64) : Computer :=
  { c with registers := k.registers, timer := k.timer, clock := k.clock }

/-- Lets the timer see the clock. -/
def updateTimer (c : Computer) : Outcome Halt Computer :=
  c.countdown.update.lift c.withCountdown .host

/-- The end of a step whose instruction was carried out. -/
def finishStep (c : Computer) (opcode : Int) : Outcome Halt Computer :=
  let report := Outcome.noted c (.executed opcode c.registers c.waiting)
  report.andThen fun c ↦ if c.waiting then .done c else c.updateTimer

/-- One step. -/
def step (c : Computer) : Outcome Halt Computer :=
  match c.fetch with
  | .error cause => c.recordFault cause none
  | .ok opcode =>
    -- The word is remembered before it is carried out, so a fault does not hide it.
    let o := { c with lastOpcode := opcode }.execute opcode
    match o.halt with
    | none => o.andThen fun c ↦ c.finishStep opcode
    | some (.fault f) =>
      let recorded := o.state.recordFault f.cause (some opcode)
      { recorded with signals := o.signals ++ recorded.signals }
    | some (.host _) => o

/-- Up to `n` steps, as long as none is halted. -/
def steps : Nat → Computer → Outcome Halt Computer
  | 0, c => .done c
  | n + 1, c => c.step.andThen (steps n)

/-- The steps of one frame. -/
def runFrame (c : Computer) : Outcome Halt Computer := steps c.config.stepsPerFrame.toNat c

/-! ### Laws -/

/-- **A run can be cut anywhere**: the later steps are left out exactly when the earlier ones were
halted. Rests on `Outcome.andThen_assoc` alone. -/
theorem steps_add (m n : Nat) (c : Computer) :
    steps (m + n) c = (steps m c).andThen (steps n) := by
  induction m generalizing c with
  | zero =>
    rw [Nat.zero_add]
    exact (Outcome.done_andThen c (steps n)).symm
  | succ m ih =>
    rw [Nat.succ_add, steps, steps, Outcome.andThen_assoc]
    congr 1
    funext c'
    exact ih c'

end ChipEight.Computer
