import ChipEight.Proofs.Computer.History

/-!
# Histories of single steps

A frame is a run of steps that a halt cuts short, so asking for it is asking for those of its steps
that are begun, one at a time. `unrolled` writes a history in this way. **Nothing tells the two
histories apart**, neither the state that they lead to (`after_unrolled`) nor the signals that are
sent on the way (`sent_unrolled`). So what is to be said of every moment of a history, also of those
within a frame, is said of the histories without frames.
-/

namespace ChipEight.Computer

variable {c : Computer}

/-! ### What a history sends -/

theorem after_append (c : Computer) (l l' : List Request) :
    c.after (l ++ l') = (c.after l).after l' :=
  List.foldl_append

/-- The signals that are sent during a history. -/
def sent (c : Computer) (requests : List Request) : List Signal :=
  (c.served requests).flatMap Outcome.signals

theorem sent_cons (c : Computer) (request : Request) (requests : List Request) :
    c.sent (request :: requests) =
      (c.serve request).signals ++ (c.serve request).state.sent requests := rfl

theorem sent_append (c : Computer) (l l' : List Request) :
    c.sent (l ++ l') = c.sent l ++ (c.after l).sent l' := by
  induction l generalizing c with
  | nil => rfl
  | cons request rest ih =>
    rw [List.cons_append, sent_cons, ih, sent_cons, List.append_assoc]
    rfl

/-! ### Unrolling -/

/-- How many steps of a run of `n` are begun; the last of them may be halted. -/
def stepsBegun : Nat → Computer → Nat
  | 0, _ => 0
  | n + 1, c =>
    match c.step.halt with
    | none => stepsBegun n c.step.state + 1
    | some _ => 1

/-- A request as one for single things. -/
def Request.unrolled (c : Computer) : Request → List Request
  | frame => List.replicate (stepsBegun c.config.stepsPerFrame.toNat c) .step
  | request => [request]

/-- The history with every frame replaced by its steps. -/
def unrolled (c : Computer) : List Request → List Request
  | [] => []
  | request :: rest => request.unrolled c ++ (c.serve request).state.unrolled rest

/-- **A run is the steps of it that are begun.** -/
theorem steps_eq_unrolled (n : Nat) (c : Computer) :
    (steps n c).state = c.after (List.replicate (stepsBegun n c) .step) ∧
      (steps n c).signals = c.sent (List.replicate (stepsBegun n c) .step) := by
  induction n generalizing c with
  | zero => exact ⟨rfl, rfl⟩
  | succ n ih =>
    rcases hhalt : c.step.halt with - | e
    · obtain ⟨hstate, hsignals⟩ := ih c.step.state
      rw [steps, Outcome.andThen_of_none hhalt, stepsBegun, hhalt]
      simp only [List.replicate_succ, after_cons, sent_cons, serve]
      exact ⟨hstate, by rw [hsignals]⟩
    · rw [steps, Outcome.andThen_of_some hhalt, stepsBegun, hhalt]
      exact ⟨rfl, (List.append_nil _).symm⟩

theorem serve_unrolled (c : Computer) (request : Request) :
    (c.serve request).state = c.after (request.unrolled c) ∧
      (c.serve request).signals = c.sent (request.unrolled c) := by
  cases request with
  | frame => exact steps_eq_unrolled _ c
  | _ => exact ⟨rfl, (List.append_nil _).symm⟩

/-- **Unrolling changes nothing about where a history leads.** -/
theorem after_unrolled (c : Computer) (requests : List Request) :
    c.after (c.unrolled requests) = c.after requests := by
  induction requests generalizing c with
  | nil => rfl
  | cons request rest ih =>
    rw [unrolled, after_append, ← (c.serve_unrolled request).1, ih, after_cons]

/-- **Nor about what it sends.** -/
theorem sent_unrolled (c : Computer) (requests : List Request) :
    c.sent (c.unrolled requests) = c.sent requests := by
  induction requests generalizing c with
  | nil => rfl
  | cons request rest ih =>
    rw [unrolled, sent_append, ← (c.serve_unrolled request).2, ← (c.serve_unrolled request).1, ih,
      sent_cons]

/-- There are no frames left, and nothing has come in but steps. -/
theorem eq_step_or_mem_of_mem_unrolled {request : Request} {requests : List Request}
    (h : request ∈ c.unrolled requests) :
    request ≠ .frame ∧ (request = .step ∨ request ∈ requests) := by
  induction requests generalizing c with
  | nil => exact nomatch h
  | cons first rest ih =>
    rcases List.mem_append.1 h with hfirst | hrest
    · cases first with
      | frame =>
        rw [List.eq_of_mem_replicate hfirst]
        exact ⟨nofun, .inl rfl⟩
      | _ =>
        rw [List.mem_singleton.1 hfirst]
        exact ⟨nofun, .inr List.mem_cons_self⟩
    · obtain ⟨hframe, hmem⟩ := ih hrest
      exact ⟨hframe, hmem.imp_right (List.mem_cons_of_mem _)⟩

end ChipEight.Computer
