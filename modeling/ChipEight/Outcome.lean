import ChipEight.Signal

/-!
# Outcomes

What an operation on the machine leaves behind: the new state, the signals that were sent on the
way, and, if the operation did not get to its end, what halted it. **A halted operation still has a
state**: whatever was done before the halt stays done.
-/

namespace ChipEight

/-- Why an operation did not get to its end. -/
inductive Halt where
  /-- The program did something that the machine cannot do. -/
  | fault (f : Fault)
  /-- The host cannot take a number. -/
  | host (e : HostError)
  deriving DecidableEq, Repr, Inhabited

/-- What an operation leaves behind: `ε` says what can halt it. -/
structure Outcome (ε σ : Type) where
  state : σ
  signals : List Signal := []
  halt : Option ε := none

namespace Outcome

variable {ε δ σ τ : Type}

/-- An operation that got to its end and sent nothing. -/
def done (s : σ) : Outcome ε σ := ⟨s, [], none⟩

/-- An operation that got to its end and left a remark. -/
def noted (s : σ) (n : Notice) : Outcome ε σ := ⟨s, [.notice n], none⟩

/-- An operation stopped by a fault whose place is not known. -/
def faulted (s : σ) (cause : Fault.Cause) : Outcome Halt σ := ⟨s, [], some (.fault { cause })⟩

/-- An operation stopped by the host. -/
def refused (s : σ) (e : HostError) : Outcome Halt σ := ⟨s, [], some (.host e)⟩

/-- One operation after the other; the second is left out if the first was halted. -/
def andThen (o : Outcome ε σ) (f : σ → Outcome ε σ) : Outcome ε σ :=
  match o.halt with
  | some _ => o
  | none =>
    let next := f o.state
    { next with signals := o.signals ++ next.signals }

/-- The same for a larger state and a larger choice of halts. -/
def lift (f : σ → τ) (g : ε → δ) (o : Outcome ε σ) : Outcome δ τ :=
  ⟨f o.state, o.signals, o.halt.map g⟩

/-! ### Laws -/

@[simp] theorem done_andThen (s : σ) (f : σ → Outcome ε σ) : (done s).andThen f = f s := rfl

/-- A halted operation is the end. -/
theorem andThen_of_some {o : Outcome ε σ} {e : ε} (h : o.halt = some e) (f : σ → Outcome ε σ) :
    o.andThen f = o := by
  rw [andThen, h]

/-- Behind an operation that got to its end, the next one goes on from its state. -/
theorem andThen_of_none {o : Outcome ε σ} (h : o.halt = none) (f : σ → Outcome ε σ) :
    o.andThen f = { f o.state with signals := o.signals ++ (f o.state).signals } := by
  rw [andThen, h]

theorem andThen_done (o : Outcome ε σ) : o.andThen done = o := by
  unfold andThen
  split
  · rfl
  · rename_i h
    cases o
    simp_all [done]

theorem andThen_assoc (o : Outcome ε σ) (f g : σ → Outcome ε σ) :
    (o.andThen f).andThen g = o.andThen fun s ↦ (f s).andThen g := by
  unfold andThen
  cases h : o.halt with
  | some e => simp [h]
  | none =>
    cases h' : (f o.state).halt with
    | some e => simp [h']
    | none => simp [h', List.append_assoc]

end Outcome

end ChipEight
