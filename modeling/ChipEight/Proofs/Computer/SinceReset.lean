import ChipEight.Proofs.Computer.Unrolling

/-!
# The steps since the last reset

What a program has done is what it has done since the last reset. `stepsSinceReset` keeps the steps
of a history that were begun since then, each as the computer that has begun it, and **forgets them
at a reset that counts**. Which resets count is left open: a reset that is cut short by the clock
has drawn the random source anew, but it has not put back the screen, so it counts for the one and
not for the other.

`stepsSinceReset_invariant` is the induction. What ties the state to the steps behind it, and is
kept up by every step, by every reset and by the changes from outside, holds at any moment of a
history. Frames have no case in it, because a frame is the steps of it that are begun.
-/

namespace ChipEight.Computer

variable {c : Computer} {counts : Computer → Bool} {begun : List Computer}

/-- The steps on record behind one request more, the latest first. A frame is none of these
requests; its steps are. -/
def stepNoted (counts : Computer → Bool) (c : Computer) (begun : List Computer) :
    Request → List Computer
  | .step => c :: begun
  | .reset => if counts c then [] else begun
  | _ => begun

/-- The steps on record behind a history of single steps. -/
def stepsNoted (counts : Computer → Bool) (c : Computer) (begun : List Computer) :
    List Request → List Computer
  | [] => begun
  | request :: rest =>
    (c.serve request).state.stepsNoted counts (c.stepNoted counts begun request) rest

/-- **The steps that a history has begun since its last reset that counts**, each as the computer
that has begun it, the latest first. -/
def stepsSinceReset (counts : Computer → Bool) (c : Computer) (requests : List Request) :
    List Computer :=
  c.stepsNoted counts [] (c.unrolled requests)

/-- **What holds of the state and of the steps on record goes on to hold.** -/
theorem stepsNoted_invariant {P : Computer → List Computer → Prop}
    (hstep : ∀ c begun, P c begun → P c.step.state (c :: begun))
    (hreset : ∀ c begun, P c begun → P c.reset.state (if counts c then [] else begun))
    (hkeypad : ∀ c begun keypad, P c begun → P { c with keypad := keypad } begun)
    (hclock : ∀ c begun clock, P c begun → P { c with clock := clock } begun)
    (hsink : ∀ c begun sink, P c begun → P (c.setSink sink) begun) {requests : List Request}
    (hframe : .frame ∉ requests) (h : P c begun) :
    P (c.after requests) (c.stepsNoted counts begun requests) := by
  induction requests generalizing c begun with
  | nil => exact h
  | cons request rest ih =>
    obtain ⟨hne, hrest⟩ := List.ne_and_not_mem_of_not_mem_cons hframe
    refine ih hrest ?_
    cases request with
    | step => exact hstep c begun h
    | frame => exact absurd rfl hne
    | reset => exact hreset c begun h
    | _ =>
      exact serve_preserves_of_outside (P := fun c ↦ P c begun) (fun c ↦ hkeypad c begun)
        (fun c ↦ hclock c begun) (fun c ↦ hsink c begun) rfl h

/-- **And so it holds at any moment of a history**, if it holds when nothing has been done yet. -/
theorem stepsSinceReset_invariant {P : Computer → List Computer → Prop}
    (hstep : ∀ c begun, P c begun → P c.step.state (c :: begun))
    (hreset : ∀ c begun, P c begun → P c.reset.state (if counts c then [] else begun))
    (hkeypad : ∀ c begun keypad, P c begun → P { c with keypad := keypad } begun)
    (hclock : ∀ c begun clock, P c begun → P { c with clock := clock } begun)
    (hsink : ∀ c begun sink, P c begun → P (c.setSink sink) begun) (requests : List Request)
    (h : P c []) : P (c.after requests) (c.stepsSinceReset counts requests) := by
  have hframe : .frame ∉ c.unrolled requests :=
    fun hmem ↦ (eq_step_or_mem_of_mem_unrolled hmem).1 rfl
  rw [stepsSinceReset, ← c.after_unrolled requests]
  exact stepsNoted_invariant hstep hreset hkeypad hclock hsink hframe h

end ChipEight.Computer
