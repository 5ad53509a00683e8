import ChipEight.Proofs.Computer.History

/-!
# The states a computer gets into

A computer begins with a reset, the one by which it is switched on or a later one, and from there it
is stepped and run while keys go up and down and time passes. The states that it gets into are the
**reached** ones. Nothing is said of the state that a reset began with, so a reached computer may
have had any past.

**A reset is a beginning only if it gets to its end.** One that is cut short by a clock without an
answer has put back the registers and left the flags of the old run, and what it leaves is not
reached.

`Reached.invariant` is the induction over reached states: what every completed reset establishes,
and steps and the changes from outside keep, is true of all of them.
-/

namespace ChipEight.Computer

variable {c : Computer}

/-- Behind a completed reset and any requests that are not resets; then perhaps behind another
completed reset, and so on. -/
inductive Reached : Computer → Prop
  | reset {c : Computer} : c.reset.halt = none → Reached c.reset.state
  | serve {c : Computer} {request : Request} : Reached c → request ≠ .reset →
      Reached (c.serve request).state

/-- To be switched on is to be reset. -/
theorem reached_of_boot {config : Config} {memory : Memory} {screen : Screen} {keypad : Keypad}
    {sink : Option Sink} {clock : Clock Binary64} {booted : Outcome Halt Computer}
    (hboot : boot config memory screen keypad sink clock = .ok booted)
    (hdone : booted.halt = none) : booted.state.Reached := by
  rw [boot, unstarted] at hboot
  rcases hnow : clock.now with e | now
  · rw [hnow] at hboot
    cases hboot
  · rw [hnow] at hboot
    cases hboot
    exact .reset hdone

/-- A history without resets goes on among the reached states. -/
theorem Reached.after (h : c.Reached) {requests : List Request} (hreset : .reset ∉ requests) :
    (c.after requests).Reached := by
  induction requests generalizing c with
  | nil => exact h
  | cons request rest ih =>
    obtain ⟨hne, hrest⟩ := List.ne_and_not_mem_of_not_mem_cons hreset
    exact ih (h.serve (Ne.symm hne)) hrest

/-- **What completed resets establish and everything else keeps is true of every reached state.** -/
theorem Reached.invariant {P : Computer → Prop}
    (hreset : ∀ c : Computer, c.reset.halt = none → P c.reset.state)
    (hstep : ∀ c, P c → P c.step.state)
    (hkeypad : ∀ c keypad, P c → P { c with keypad := keypad })
    (hclock : ∀ c clock, P c → P { c with clock := clock })
    (hsink : ∀ c sink, P c → P (c.setSink sink)) (h : c.Reached) : P c := by
  induction h with
  | reset hdone => exact hreset _ hdone
  | serve _ hne ih => exact serve_preserves_of_ne_reset hstep hkeypad hclock hsink hne ih

/-- What steps and the changes from outside keep, a history without resets keeps. -/
theorem after_preserves_of_no_reset {P : Computer → Prop} (hstep : ∀ c, P c → P c.step.state)
    (hkeypad : ∀ c keypad, P c → P { c with keypad := keypad })
    (hclock : ∀ c clock, P c → P { c with clock := clock })
    (hsink : ∀ c sink, P c → P (c.setSink sink)) {requests : List Request}
    (hreset : .reset ∉ requests) (h : P c) : P (c.after requests) := by
  induction requests generalizing c with
  | nil => exact h
  | cons request rest ih =>
    obtain ⟨hne, hrest⟩ := List.ne_and_not_mem_of_not_mem_cons hreset
    exact ih hrest (serve_preserves_of_ne_reset hstep hkeypad hclock hsink (Ne.symm hne) h)

/-- **A reached computer is within its ranges.** -/
theorem Reached.wellFormed (h : c.Reached) : c.WellFormed := by
  refine h.invariant (P := WellFormed) ?_ ?_ ?_ ?_ ?_
  · intro c hdone
    exact wellFormed_of_reset (exists_reset_eq hdone).1 hdone
  · intro c hc
    exact hc.step.1
  · intro c keypad hc
    exact ⟨hc.registers, hc.screen⟩
  · intro c clock hc
    exact ⟨hc.registers, hc.screen⟩
  · intro c sink hc
    exact ⟨hc.registers, hc.screen⟩

end ChipEight.Computer
