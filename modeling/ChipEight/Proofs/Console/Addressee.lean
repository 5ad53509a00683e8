import ChipEight.Proofs.Computer.Ticks
import ChipEight.Proofs.Console.Computing

/-!
# Whom the sound is for

The sink of a console is kept in three places: by the console itself, by its computer, which tells
it at a reset that there is silence, and by the computer's timer, which tells it at the ticks. **All
three agree as long as there is a computer** (`Addresses`), whatever is loaded, reset or replaced,
and whatever fails. So what is told is told to the sink that was given last, and to nobody else
(`sound_reaches_given`).
-/

namespace ChipEight

namespace Computer

variable {c : Computer} {sink : Option Sink}

/-! ### What a computer tells -/

/-- The timer's announcements are for the timer's sink. -/
theorem onlyTo_announcement (k : Countdown Binary64) : OnlyTo k.sink k.announcement := by
  rw [Countdown.announcement]
  split
  · exact Silent.nil.onlyTo
  · exact onlyTo_tell _ _

theorem onlyTo_finishStep (c : Computer) (opcode : Int) :
    OnlyTo c.timerSink (c.finishStep opcode).signals := by
  have hsilent : Silent [.notice (.executed opcode c.registers c.waiting)] := .notice _
  rcases hwait : c.waiting with - | -
  · rcases hnow : c.clock.now with e | now
    · rw [finishStep_of_error hwait hnow]
      exact hsilent.onlyTo
    · rw [finishStep_of_ok hwait hnow]
      exact hsilent.onlyTo.append (onlyTo_announcement c.countdown)
  · rw [finishStep_of_waiting hwait]
    exact hsilent.onlyTo

/-- **A step tells the timer's sink**, if anybody. -/
theorem onlyTo_step (c : Computer) : OnlyTo c.timerSink c.step.signals := by
  rcases hfetch : c.fetch with cause | w
  · rw [step_of_fetch_error hfetch]
    exact (Silent.notice _).onlyTo
  rcases hdecode : Instruction.decode w with - | i
  · rw [step_of_unknown hfetch hdecode]
    exact (Silent.notice _).onlyTo
  have hsilent : Silent (c.performed w i).signals := (c.remembering w).silent_perform w i
  have hsink : (c.performed w i).state.timerSink = c.timerSink :=
    ((c.remembering w).perform_leavesAlone w i).timerSink_eq
  rw [step_of_decode hfetch hdecode]
  rcases hhalt : (c.performed w i).halt with - | f | e
  · rw [settle_of_none hhalt, Outcome.andThen_of_none hhalt, ← hsink]
    exact hsilent.onlyTo.append (onlyTo_finishStep _ _)
  · rw [settle_of_fault hhalt]
    exact (hsilent.append (.notice _)).onlyTo
  · rw [settle_of_host hhalt]
    exact hsilent.onlyTo

/-- And so does a run of steps, because no step replaces that sink. -/
theorem onlyTo_steps (c : Computer) (n : Nat) : OnlyTo c.timerSink (steps n c).signals := by
  induction n generalizing c with
  | zero => exact Silent.nil.onlyTo
  | succ n ih =>
    have hstep := c.onlyTo_step
    rw [steps]
    rcases hhalt : c.step.halt with - | halt
    · rw [Outcome.andThen_of_none hhalt]
      have hrest := ih c.step.state
      rw [c.sameSetup_step.timerSink_eq] at hrest
      exact hstep.append hrest
    · rw [Outcome.andThen_of_some hhalt]
      exact hstep

/-- **A reset tells the computer's own sink**, if anybody. -/
theorem onlyTo_reset (c : Computer) : OnlyTo c.sink c.reset.signals := by
  rcases hhalt : c.reset.halt with - | e
  · obtain ⟨-, now, -, heq⟩ := exists_reset_eq hhalt
    rw [heq]
    exact onlyTo_tell c.sink false
  · obtain ⟨registers, memory, random, heq⟩ := exists_reset_eq_of_some hhalt
    rw [heq]
    exact Silent.nil.onlyTo

/-- The sink is the one that the computer tells at its resets, and at the ticks of its timer. -/
structure Addresses (c : Computer) (sink : Option Sink) : Prop where
  sink_eq : c.sink = sink
  timerSink_eq : c.timerSink = sink

theorem SameSetup.addresses {c' : Computer} (hsame : c.SameSetup c') (h : c.Addresses sink) :
    c'.Addresses sink :=
  ⟨hsame.sink_eq.trans h.sink_eq, hsame.timerSink_eq.trans h.timerSink_eq⟩

/-- **The sink of a new computer is told of its first reset**, and is the one that it will tell. -/
theorem addresses_of_boot {config : Config} {memory : Memory} {screen : Screen} {keypad : Keypad}
    {clock : Clock Binary64} {booted : Outcome Halt Computer}
    (hboot : boot config memory screen keypad sink clock = .ok booted)
    (hdone : booted.halt = none) : booted.state.Addresses sink ∧ OnlyTo sink booted.signals := by
  obtain ⟨-, clock', now, rfl⟩ := exists_eq_fresh_of_boot hboot hdone
  exact ⟨⟨rfl, rfl⟩, onlyTo_tell sink false⟩

end Computer

namespace Console

variable {c : Console} {sink : Option Sink} {request : Request}

/-! ### Operations -/

/-- The sink that is given by a request, or else the one that was given before. -/
def givenBy (sink : Option Sink) : Request → Option Sink
  | .setSink sink' => sink'
  | _ => sink

/-- The sink is the console's own, and its computer's if there is one. -/
structure Addresses (c : Console) (sink : Option Sink) : Prop where
  sink_eq : c.sink = sink
  computes : c.Computes (·.Addresses sink)

/-- An operation has told this sink alone, and is left with it. -/
structure StaysWith (sink : Option Sink) (o : Outcome Failure Console) : Prop where
  signals : OnlyTo sink o.signals
  addresses : o.state.Addresses sink

theorem StaysWith.andThen {o : Outcome Failure Console} {f : Console → Outcome Failure Console}
    (hdone : o.halt = none) (h : OnlyTo sink o.signals) (h' : StaysWith sink (f o.state)) :
    StaysWith sink (o.andThen f) := by
  rw [Outcome.andThen_of_none hdone]
  exact ⟨h.append h'.signals, h'.addresses⟩

/-- Without a computer nobody is left to disagree. -/
theorem addresses_of_idle (hsink : c.sink = sink) (hidle : c.isLoaded = false) :
    c.Addresses sink :=
  ⟨hsink, computes_of_idle hidle⟩

/-- A request that is passed on to the computer. -/
theorem staysWith_lift {computer : Computer} {o : Outcome Halt Computer} (h : c.Addresses sink)
    (hwork : c.work = .running computer) (hsame : computer.SameSetup o.state)
    (hsignals : OnlyTo sink o.signals) :
    StaysWith sink (o.lift c.withComputer .halted) :=
  ⟨hsignals, h.sink_eq, computes_withComputer c (hsame.addresses (h.computes _ hwork))⟩

theorem staysWith_switchOn (h : c.sink = sink) (memory : Memory) (platform : Platform) :
    StaysWith sink (c.switchOn memory platform) := by
  rw [switchOn]
  rcases hboot : Computer.boot (c.config platform) memory c.screen c.keypad c.sink c.clock with
    e | booted
  · exact ⟨Silent.nil.onlyTo, addresses_of_idle h rfl⟩
  rcases hhalt : booted.halt with - | e
  · obtain ⟨haddresses, hsignals⟩ := Computer.addresses_of_boot hboot hhalt
    rw [h] at haddresses hsignals
    simp only [hhalt]
    exact ⟨hsignals, h, computes_withComputer c haddresses⟩
  · simp only [hhalt, Computer.signals_boot_of_some hboot hhalt]
    exact ⟨Silent.nil.onlyTo, addresses_of_idle h rfl⟩

theorem staysWith_loadBytes (h : c.sink = sink) (program : List UInt8) (platform : Platform) :
    StaysWith sink (c.loadBytes program platform) := by
  rcases hrun : image program platform with ⟨memory, - | cause⟩
  · rw [loadBytes_of_fits (congrArg Prod.snd hrun)]
    exact .andThen rfl (Silent.notice _).onlyTo (staysWith_switchOn h _ _)
  · rw [image] at hrun
    simp only [loadBytes, hrun]
    exact ⟨Silent.nil.onlyTo, addresses_of_idle h rfl⟩

/-- **A load asks nothing of the computer before**, and the one behind it has the console's sink. -/
theorem staysWith_load (h : c.sink = sink) (hload : request.isLoad = true) :
    StaysWith sink (c.serve request) := by
  cases request with
  | loadBytes program platform => exact staysWith_loadBytes h program platform
  | loadFile directory name platform =>
    rw [serve]
    -- Its equation takes long to be generated, because two of its cases overlap.
    unfold loadFile
    dsimp only
    split
    · exact ⟨(Silent.notice _).onlyTo, addresses_of_idle h rfl⟩
    · exact ⟨(Silent.notice _).onlyTo, addresses_of_idle h rfl⟩
    · exact .andThen rfl (Silent.notice _).onlyTo (staysWith_loadBytes h _ _)
  | _ => exact absurd hload Bool.false_ne_true

theorem staysWith_softReset (h : c.Addresses sink) : StaysWith sink c.softReset := by
  rcases hwork : c.work with ⟨screen, keypad, clock, memory⟩ | computer
  · simp only [softReset, hwork]
    exact ⟨(Silent.notice _).onlyTo, h⟩
  · have hsignals := computer.onlyTo_reset
    rw [(h.computes _ hwork).sink_eq] at hsignals
    simp only [softReset, hwork]
    exact .andThen rfl (Silent.notice _).onlyTo
      (staysWith_lift h hwork computer.sameSetup_reset hsignals)

theorem sink_setKeypad (c : Console) (pad : Keypad) : (c.setKeypad pad).sink = c.sink := by
  rw [setKeypad]
  split
  · rfl
  · rfl

theorem staysWith_changeKeypad (h : c.Addresses sink) (pad : Except HostError Keypad) :
    StaysWith sink (c.changeKeypad pad) := by
  have hsink : (c.changeKeypad pad).state.sink = c.sink := by
    rcases pad with e | pad
    · rfl
    · exact c.sink_setKeypad pad
  have hcomputes := h.computes.changeKeypad (fun _ _ h ↦ ⟨h.sink_eq, h.timerSink_eq⟩) pad
  refine ⟨?_, hsink.trans h.sink_eq, hcomputes⟩
  rw [signals_changeKeypad]
  exact Silent.nil.onlyTo

/-- **Every request but that for another sink** tells the sink alone, and leaves all with it. -/
theorem staysWith_serve (h : c.Addresses sink) (hgiven : ∀ s, request ≠ .setSink s) :
    StaysWith sink (c.serve request) := by
  cases request with
  | loadBytes | loadFile => exact staysWith_load h.sink_eq rfl
  | frame =>
    rcases hwork : c.work with ⟨screen, keypad, clock, memory⟩ | computer
    · simp only [serve, runFrame, hwork]
      exact ⟨Silent.nil.onlyTo, h⟩
    · have hsignals := computer.onlyTo_steps computer.config.stepsPerFrame.toNat
      rw [(h.computes _ hwork).timerSink_eq] at hsignals
      simp only [serve, runFrame, hwork]
      exact staysWith_lift h hwork (computer.sameSetup_steps _) hsignals
  | step =>
    rcases hwork : c.work with ⟨screen, keypad, clock, memory⟩ | computer
    · simp only [serve, step, hwork]
      exact ⟨Silent.nil.onlyTo, h⟩
    · have hsignals := computer.onlyTo_step
      rw [(h.computes _ hwork).timerSink_eq] at hsignals
      simp only [serve, step, hwork]
      exact staysWith_lift h hwork computer.sameSetup_step hsignals
  | softReset => exact staysWith_softReset h
  | event e =>
    rw [serve]
    rcases c.handle_cases e with ⟨-, heq⟩ | heq | ⟨pad, heq⟩ | heq
    · rw [heq]
      exact staysWith_softReset h
    · rw [heq]
      exact ⟨Silent.nil.onlyTo, h.sink_eq, h.computes⟩
    · rw [heq]
      exact staysWith_changeKeypad h pad
    · rw [heq]
      exact ⟨Silent.nil.onlyTo, h⟩
  | press code => exact staysWith_changeKeypad h _
  | release code => exact staysWith_changeKeypad h _
  | moveClock d =>
    refine ⟨Silent.nil.onlyTo, ?_, h.computes.advance (fun _ _ h ↦ ⟨h.sink_eq, h.timerSink_eq⟩) d⟩
    refine Eq.trans ?_ h.sink_eq
    simp only [serve, Outcome.done, advance]
    split
    · rfl
    · rfl
  | setSink s => exact absurd rfl (hgiven s)
  | setDebug on => exact ⟨Silent.nil.onlyTo, h.sink_eq, h.computes⟩

/-- **The request for another sink** reaches all three places, whatever was there. -/
theorem addresses_setSink (c : Console) (sink : Option Sink) : (c.setSink sink).Addresses sink := by
  rcases hwork : c.work with ⟨screen, keypad, clock, memory⟩ | computer
  · simp only [setSink, hwork]
    exact addresses_of_idle rfl rfl
  · simp only [setSink, hwork]
    exact ⟨rfl, computes_withComputer { c with sink := sink } ⟨rfl, rfl⟩⟩

/-! ### Histories -/

/-- **What a request tells, it tells to the sink from before it, and it leaves all with the sink
from behind it.** -/
theorem onlyTo_serve (h : c.Addresses sink) (request : Request) :
    OnlyTo sink (c.serve request).signals ∧
      (c.serve request).state.Addresses (givenBy sink request) := by
  by_cases hgiven : ∃ s, request = .setSink s
  · obtain ⟨s, rfl⟩ := hgiven
    exact ⟨Silent.nil.onlyTo, c.addresses_setSink s⟩
  · have hother : ∀ s, request ≠ .setSink s := fun s hs ↦ hgiven ⟨s, hs⟩
    have hstays := staysWith_serve h hother
    have hsame : givenBy sink request = sink := by
      cases request with
      | setSink s => exact absurd rfl (hother s)
      | _ => rfl
    rw [hsame]
    exact ⟨hstays.signals, hstays.addresses⟩

/-- By induction on the requests. -/
theorem Addresses.after (h : c.Addresses sink) (requests : List Request) :
    (c.after requests).Addresses (requests.foldl givenBy sink) := by
  induction requests generalizing c sink with
  | nil => exact h
  | cons request rest ih => exact ih (onlyTo_serve h request).2

/-- **The sound of a console reaches the sink that was given last, and no other one.** A console
without a program, as one begins, is used in any way: programs are loaded or not found, run, reset
and fault, keys are pressed, time passes and the sink is replaced. At any moment the console has
the sink that was given last, and a computer that is loaded has the same one for its resets and for
its timer; and whatever the next request is, what is told during it is told to that sink. If none
was given, nothing is told. -/
theorem sound_reaches_given (hidle : c.isLoaded = false) (requests : List Request) :
    let c' := c.after requests
    let given := requests.foldl givenBy c.sink
    c'.sink = given ∧
      (∀ computer, c'.work = .running computer →
        computer.sink = given ∧ computer.timerSink = given) ∧
      ∀ request s on, .sound s on ∈ (c'.serve request).signals → given = some s := by
  intro c' given
  have haddresses : c'.Addresses given := (addresses_of_idle rfl hidle).after requests
  refine ⟨haddresses.sink_eq, fun computer hwork ↦ ?_, fun request ↦ ?_⟩
  · have hcomputer := haddresses.computes computer hwork
    exact ⟨hcomputer.sink_eq, hcomputer.timerSink_eq⟩
  · exact (onlyTo_serve haddresses request).1

/-- The program starts the sound, and another sink is given before the next tick. -/
def handingOver : List Request :=
  [.loadBytes [0x60, 0x05, 0xF0, 0x18, 0x12, 0x04] .standard, .frame, .setSink (some 1),
    .moveClock 20000]

/-- The tick tells the new sink, and the new one alone. -/
theorem sound_reaches_given_handingOver :
    let c := (empty (some 0) (.microseconds 0 0)).after handingOver
    c.sink = some 1 ∧ .sound 1 true ∈ (c.serve .frame).signals ∧
      ∀ s on, .sound s on ∈ (c.serve .frame).signals → s = 1 := by
  intro c
  obtain ⟨hsink, -, htold⟩ :=
    sound_reaches_given (c := empty (some 0) (.microseconds 0 0)) rfl handingOver
  refine ⟨hsink, ?_, fun s on hmem ↦ (Option.some.inj (htold .frame s on hmem)).symm⟩
  decide +kernel

end Console

end ChipEight
