import ChipEight.Proofs.Console.Computing
import ChipEight.Session

/-!
# A session without a window

What a session comes to can be said without a window, a renderer or an overlay: batch by batch, the
events are handled up to a request to quit, and then the program is stepped for a frame, **until
something fails or the user quits** (`unwatched`). `frameEnds` keeps the frames that are begun on
the way, which is where a window is drawn.

None of it looks at the flag of the overlay. So the flag can be another at the beginning, and the
events that turn it over can be left out or put in, and **nothing but the flag is another in the
end** (`sameButFlag_unwatched`).
-/

namespace ChipEight

namespace Console

variable {c : Console}

/-! ### Batches and frames -/

/-- Handles events one after another, as long as none of them fails. -/
def handleEach (c : Console) : List Event → Outcome Failure Console
  | [] => .done c
  | e :: rest => (c.handle e).andThen fun c ↦ c.handleEach rest

/-- Takes up to `n` single steps, as long as none is halted. -/
def steps : Nat → Console → Outcome Failure Console
  | 0, c => .done c
  | n + 1, c => c.step.andThen (steps n)

/-- The single steps of a frame, if a program is loaded. -/
def frameSteps (c : Console) : Outcome Failure Console :=
  match c.computer? with
  | none => .done c
  | some computer => c.steps computer.config.stepsPerFrame.toNat

theorem step_withComputer (c : Console) (computer : Computer) :
    (c.withComputer computer).step = computer.step.lift c.withComputer .halted := rfl

theorem steps_withComputer (c : Console) (computer : Computer) (n : Nat) :
    (c.withComputer computer).steps n =
      (Computer.steps n computer).lift c.withComputer .halted := by
  induction n generalizing computer with
  | zero => rfl
  | succ n ih =>
    rw [steps, step_withComputer, Computer.steps]
    rcases hhalt : computer.step.halt with - | h
    · rw [Outcome.andThen_of_none hhalt, Outcome.andThen_of_none (by rw [Outcome.lift, hhalt]; rfl)]
      simp only [Outcome.lift, ih]
    · rw [Outcome.andThen_of_some hhalt, Outcome.andThen_of_some (e := .halted h)]
      rw [Outcome.lift, hhalt]
      rfl

/-- **A frame is its single steps.** -/
theorem frameSteps_eq_runFrame (c : Console) : c.frameSteps = c.runFrame := by
  rcases hwork : c.work with ⟨screen, keypad, clock, memory⟩ | computer
  · simp only [frameSteps, computer?, runFrame, hwork]
  · have hc : c = c.withComputer computer := by
      rw [withComputer, ← hwork]
    simp only [frameSteps, computer?, runFrame, hwork, Computer.runFrame]
    rw [← steps_withComputer, ← hc]

/-! ### The flag of the overlay -/

/-- The outcomes are the same but for the flag of the overlay. -/
def SameButFlag (o o' : Outcome Failure Console) : Prop := ∃ on, o' = o.onState (·.setDebug on)

/-- What is the same as one outcome but for the flag is the same as each other. -/
theorem SameButFlag.of_common {o o' o'' : Outcome Failure Console} (h : SameButFlag o o')
    (h' : SameButFlag o o'') : SameButFlag o' o'' := by
  obtain ⟨-, rfl⟩ := h
  obtain ⟨on, rfl⟩ := h'
  exact ⟨on, rfl⟩

/-- Sequences are the same but for the flag if their second operations are so from consoles that are
the same but for it. -/
theorem SameButFlag.andThen {o o' : Outcome Failure Console}
    {f f' : Console → Outcome Failure Console} (h : SameButFlag o o')
    (hf : ∀ on, SameButFlag (f o.state) (f' (o.state.setDebug on))) :
    SameButFlag (o.andThen f) (o'.andThen f') := by
  obtain ⟨on, rfl⟩ := h
  have hsame : (o.onState (·.setDebug on)).halt = o.halt := rfl
  rcases hhalt : o.halt with - | e
  · obtain ⟨last, hlast⟩ := hf on
    rw [Outcome.andThen_of_none hhalt, Outcome.andThen_of_none (hsame.trans hhalt),
      Outcome.state_onState, hlast]
    exact ⟨last, rfl⟩
  · rw [Outcome.andThen_of_some hhalt, Outcome.andThen_of_some (hsame.trans hhalt)]
    exact ⟨on, rfl⟩

/-- The event is the overlay's key, going down or up. -/
def isOverlayKey : Event → Bool
  | .keyDown key => key == overlayKey
  | .keyUp key => key == overlayKey
  | _ => false

theorem advance_setDebug (c : Console) (on : Bool) (d : Int) :
    (c.setDebug on).advance d = (c.advance d).setDebug on := by
  rcases hwork : c.work with ⟨screen, keypad, clock, memory⟩ | computer
  · simp only [advance, setDebug, hwork]
  · simp only [advance, setDebug, hwork]

theorem runFrame_setDebug (c : Console) (on : Bool) :
    (c.setDebug on).runFrame = c.runFrame.onState (·.setDebug on) := by
  rcases c with ⟨- | computer⟩
  · rfl
  · rfl

theorem frameSteps_setDebug (c : Console) (on : Bool) :
    SameButFlag c.frameSteps (c.setDebug on).frameSteps := by
  rw [frameSteps_eq_runFrame, frameSteps_eq_runFrame]
  exact ⟨on, c.runFrame_setDebug on⟩

theorem softReset_setDebug (c : Console) (on : Bool) :
    (c.setDebug on).softReset = c.softReset.onState (·.setDebug on) := by
  rcases c with ⟨- | computer⟩
  · rfl
  · rfl

theorem changeKeypad_setDebug (c : Console) (on : Bool) (pad : Except HostError Keypad) :
    (c.setDebug on).changeKeypad pad = (c.changeKeypad pad).onState (·.setDebug on) := by
  rcases pad with e | pad
  · rfl
  · rcases c with ⟨- | computer⟩
    · rfl
    · rfl

/-- Other events than the overlay's key do the same whatever the flag is. -/
theorem handle_setDebug {e : Event} (h : isOverlayKey e = false) (c : Console) (on : Bool) :
    (c.setDebug on).handle e = (c.handle e).onState (·.setDebug on) := by
  have hkeypad : (c.setDebug on).keypad = c.keypad := rfl
  have hloaded : (c.setDebug on).isLoaded = c.isLoaded := rfl
  rcases e with key | key | - | -
  · rw [handle, handle, hkeypad, hloaded, softReset_setDebug]
    split
    · split <;> rfl
    · rw [if_neg (beq_eq_false_iff_ne.1 h), if_neg (beq_eq_false_iff_ne.1 h)]
      split
      · exact c.changeKeypad_setDebug on _
      · rfl
  · rw [handle, handle, hkeypad]
    split
    · exact c.changeKeypad_setDebug on _
    · rfl
  · rfl
  · rfl

/-- And the overlay's key does nothing else than to turn it over. -/
theorem exists_handle_overlayKey {e : Event} (h : isOverlayKey e = true) (c : Console) :
    ∃ on, c.handle e = .done (c.setDebug on) := by
  rcases e with key | key | - | -
  · cases (beq_iff_eq.1 h : key = overlayKey)
    exact ⟨!c.debug, rfl⟩
  · cases (beq_iff_eq.1 h : key = overlayKey)
    exact ⟨c.debug, rfl⟩
  · exact nomatch h
  · exact nomatch h

/-- The events that are not the overlay's. -/
def withoutOverlayKey (events : List Event) : List Event := events.filter (!isOverlayKey ·)

theorem withoutOverlayKey_cons_of_not {e : Event} (h : isOverlayKey e = false)
    (rest : List Event) : withoutOverlayKey (e :: rest) = e :: withoutOverlayKey rest :=
  List.filter_cons_of_pos (by rw [h]; rfl)

theorem withoutOverlayKey_cons {e : Event} (h : isOverlayKey e = true) (rest : List Event) :
    withoutOverlayKey (e :: rest) = withoutOverlayKey rest :=
  List.filter_cons_of_neg (by rw [h]; decide)

theorem sameButFlag_handleEach (c : Console) (on : Bool) (events : List Event) :
    SameButFlag (c.handleEach (withoutOverlayKey events)) ((c.setDebug on).handleEach events) := by
  induction events generalizing c on with
  | nil => exact ⟨on, rfl⟩
  | cons e rest ih =>
    rcases hkey : isOverlayKey e with - | -
    · rw [withoutOverlayKey_cons_of_not hkey]
      exact .andThen ⟨on, c.handle_setDebug hkey on⟩ fun on ↦ ih _ on
    · obtain ⟨turned, hhandle⟩ := (c.setDebug on).exists_handle_overlayKey hkey
      rw [withoutOverlayKey_cons hkey, handleEach, hhandle, Outcome.done_andThen]
      exact ih c turned

end Console

namespace Session

open Console (SameButFlag withoutOverlayKey)

/-! ### The session -/

/-- The events of a batch that come before a request to quit. -/
def beforeQuit (batch : List Event) : List Event := batch.takeWhile (· != .quit)

/-- What a batch of events comes to: time passes, and they are handled up to a request to quit. -/
def handled (frameTime : Int) (batch : List Event) (c : Console) :
    Outcome Console.Failure Console :=
  (c.advance frameTime).handleEach (beforeQuit batch)

/-- A session without a window. When the batches are used up the user quits. -/
def unwatched (frameTime : Int) : List (List Event) → Console → Outcome Console.Failure Console
  | [], c => .done (c.advance frameTime)
  | batch :: rest, c =>
    if .quit ∈ batch then handled frameTime batch c
    else
      (handled frameTime batch c).andThen fun c ↦ c.frameSteps.andThen (unwatched frameTime rest)

/-- The frames that are begun in a session, as they end. -/
def frameEnds (frameTime : Int) :
    List (List Event) → Console → List (Outcome Console.Failure Console)
  | [], _ => []
  | batch :: rest, c =>
    if .quit ∈ batch ∨ (handled frameTime batch c).halt ≠ none then []
    else
      let o := (handled frameTime batch c).state.frameSteps
      o :: if o.halt = none then frameEnds frameTime rest o.state else []

theorem beforeQuit_cons {e : Event} (h : e ≠ .quit) (rest : List Event) :
    beforeQuit (e :: rest) = e :: beforeQuit rest :=
  List.takeWhile_cons_of_pos (bne_iff_ne.2 h)

/-- A frame behind which another one is begun was not halted. -/
theorem pairwise_frameEnds (frameTime : Int) (batches : List (List Event)) (c : Console) :
    (frameEnds frameTime batches c).Pairwise fun o _ ↦ o.halt = none := by
  induction batches generalizing c with
  | nil => exact .nil
  | cons batch rest ih =>
    rw [frameEnds]
    split
    · exact .nil
    · refine .cons ?_ ?_
      · intro o' ho'
        split at ho'
        · assumption
        · exact nomatch ho'
      · split
        · exact ih _
        · exact .nil

/-- Without the overlay's key a batch is cut off at the same place. -/
theorem beforeQuit_withoutOverlayKey (batch : List Event) :
    beforeQuit (withoutOverlayKey batch) = withoutOverlayKey (beforeQuit batch) := by
  induction batch with
  | nil => rfl
  | cons e rest ih =>
    by_cases hquit : e = .quit
    · rw [hquit]
      rfl
    · rw [beforeQuit_cons hquit]
      rcases hkey : Console.isOverlayKey e with - | -
      · rw [Console.withoutOverlayKey_cons_of_not hkey, Console.withoutOverlayKey_cons_of_not hkey,
          beforeQuit_cons hquit, ih]
      · rw [Console.withoutOverlayKey_cons hkey, Console.withoutOverlayKey_cons hkey, ih]

theorem quit_mem_withoutOverlayKey {batch : List Event} :
    .quit ∈ withoutOverlayKey batch ↔ .quit ∈ batch := by
  rw [withoutOverlayKey, List.mem_filter]
  exact and_iff_left rfl

/-- **The overlay is nothing to a session**: with another flag and with its key pressed at other
times, nothing else is another in the end. -/
theorem sameButFlag_unwatched (frameTime : Int) (batches : List (List Event)) (c : Console)
    (on : Bool) :
    SameButFlag (unwatched frameTime (batches.map withoutOverlayKey) c)
      (unwatched frameTime batches (c.setDebug on)) := by
  induction batches generalizing c on with
  | nil =>
    rw [unwatched, Console.advance_setDebug]
    exact ⟨on, rfl⟩
  | cons batch rest ih =>
    have hhandled : SameButFlag (handled frameTime (withoutOverlayKey batch) c)
        (handled frameTime batch (c.setDebug on)) := by
      rw [handled, handled, beforeQuit_withoutOverlayKey, Console.advance_setDebug]
      exact Console.sameButFlag_handleEach _ on _
    simp only [List.map_cons, unwatched, quit_mem_withoutOverlayKey]
    split
    · exact hhandled
    · exact hhandled.andThen fun on ↦ (Console.frameSteps_setDebug _ on).andThen fun on ↦ ih _ on

end Session

end ChipEight
