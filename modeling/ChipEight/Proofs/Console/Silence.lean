import ChipEight.Proofs.Console.Computing
import ChipEight.Proofs.Sound.Beeping
import Mathlib.Data.List.Induction

/-!
# Sounds that nobody ends

Only a computer tells a sink anything: at a tick of its timer, and at a reset. So when a computer is
taken away while its sound is on, it is for the next computer to end the sound, and **a load that
fails leaves no next computer** (`load_ends`). The sink stays on, and with no computer there is no
request but another load that can silence it (`signals_serve_of_idle`).

`silent_without_program_iff` is how much is true of the expectation that a console without a program
is silent: it holds through a history **exactly if no load fails that has come upon a sounding
sink**.
-/

namespace ChipEight.Console

variable {c : Console} {sink : Sink} {request : Request}

/-! ### What a history sends -/

theorem after_append (c : Console) (l l' : List Request) :
    c.after (l ++ l') = (c.after l).after l' :=
  List.foldl_append

/-- The signals that are sent during a history. -/
def sent (c : Console) : List Request → List Signal
  | [] => []
  | request :: rest => (c.serve request).signals ++ (c.serve request).state.sent rest

theorem sent_append (c : Console) (l l' : List Request) :
    c.sent (l ++ l') = c.sent l ++ (c.after l).sent l' := by
  induction l generalizing c with
  | nil => rfl
  | cons request rest ih =>
    rw [List.cons_append, sent, ih, sent, List.append_assoc]
    rfl

/-- What a sink was told last during a history, if it was told anything. -/
def lastTold (c : Console) (sink : Sink) (requests : List Request) : Option Bool :=
  (heard sink (c.sent requests)).getLast?

theorem lastTold_concat (c : Console) (past : List Request) (request : Request) :
    c.lastTold sink (past ++ [request]) =
      ((heard sink ((c.after past).serve request).signals).getLast?).or (c.lastTold sink past) := by
  rw [lastTold, sent_append, heard_append, List.getLast?_append, lastTold]
  simp only [sent, List.append_nil]

/-! ### Histories -/

/-- **A console without a program is silent exactly as long as no load fails that has come upon a
sounding sink.** -/
theorem silent_without_program_iff (c : Console) (sink : Sink) (requests : List Request) :
    (∀ past, past <+: requests → (c.after past).isLoaded = false →
        c.lastTold sink past ≠ some true) ↔
      ∀ past load, past ++ [load] <+: requests → load.isLoad = true →
        ((c.after past).serve load).halt ≠ none → c.lastTold sink past ≠ some true := by
  constructor
  · intro h past load hbegins hload hfails
    obtain ⟨hidle, hunheard⟩ := ((c.after past).load_ends hload).of_halt hfails
    have hsilent := h (past ++ [load]) hbegins (by rw [after_append]; exact hidle)
    rwa [lastTold_concat, heard_of_silent sink hunheard] at hsilent
  · intro h past
    induction past using List.reverseRecOn with
    | nil => exact fun _ _ ↦ nofun
    | append_singleton past request ih =>
      intro hbegins hidle
      have hpast : past <+: requests := (List.prefix_append past [request]).trans hbegins
      rw [after_append] at hidle
      rw [lastTold_concat]
      rcases hload : request.isLoad with - | -
      · have hidle' : (c.after past).isLoaded = false :=
          ((c.after past).isLoaded_serve hload).symm.trans hidle
        rw [heard_of_silent sink (signals_serve_of_idle hidle' hload)]
        exact ih hpast hidle'
      · have hends := (c.after past).load_ends hload
        have hfails : ((c.after past).serve request).halt ≠ none := fun hdone ↦
          Bool.eq_false_iff.1 hidle (hends.isLoaded hdone)
        rw [heard_of_silent sink (hends.of_halt hfails).2]
        exact h past request hbegins hload hfails

/-- A console whose clock is only moved by hand. -/
def handClocked : Console := empty (some 0) (.microseconds 0 0)

/-- The program starts the sound, and then there is none under the name of the next one. -/
def soundingOn : List Request :=
  [.loadBytes [0x60, 0x05, 0xF0, 0x18, 0x12, 0x04] .standard, .frame, .moveClock 20000, .frame,
    .loadFile {} "nope.ch8" .standard]

/-- **A console without a program need not be silent.** -/
theorem not_silent_without_program :
    handClocked.isLoaded = false ∧ handClocked.sink = some 0 ∧
      (∀ sink, .setSink sink ∉ soundingOn) ∧ (handClocked.after soundingOn).isLoaded = false ∧
      handClocked.lastTold 0 soundingOn = some true := by
  refine ⟨rfl, rfl, ?_, ?_, ?_⟩
  · simp [soundingOn]
  · decide +kernel
  · decide +kernel

end ChipEight.Console
