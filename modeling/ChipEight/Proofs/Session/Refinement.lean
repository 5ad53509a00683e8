import ChipEight.Proofs.Computer.Sides
import ChipEight.Proofs.Console.Silence
import ChipEight.Proofs.Session.Unwatched

/-!
# Sessions and their windows

A session in a window **does what the same session without one does** (`unwatched`), and besides it
calls the host: for every frame that is begun, the console is painted as the frame has left it and
shown once, and only behind a frame that got to its end does the session wait for the frame's time
to pass (`shown`). `refines_unwatched` says so of any session of a console whose programs were
loaded into it.

The renderer does not come into what the console does, so sessions in two windows differ in what is
painted and in nothing else. Nor does the overlay; what is left of it is its flag. **The level of
the log is no part of a session at all**: the notices are among its signals whether or not they are
written down.

That a session is not ended by its own drawing rests on the host, which paints the colors, and on
the screens of programs being such as can be drawn (`Renderer.draw_eq_ok`), so the consoles here are
the ones that have such a screen whenever they have a computer.
-/

namespace ChipEight

namespace Console

variable {c : Console}

/-- Programs have the screens they have, whatever is loaded. -/
theorem lasting_ofProgram : Lasting (·.screen.OfProgram) where
  boot := Computer.ofProgram_boot
  step _ h := Computer.ofProgram_step h
  reset _ h := Computer.ofProgram_reset h
  keypad _ _ h := h
  clock _ _ h := h
  sink _ _ h := h

section

variable {P : Computer → Prop}

theorem Computes.frameSteps (h : c.Computes P) (hP : Lasting P) :
    c.frameSteps.state.Computes P := by
  rw [frameSteps_eq_runFrame]
  exact h.serve hP .frame

theorem computes_andThen {o : Outcome Failure Console} {f : Console → Outcome Failure Console}
    (h : o.state.Computes P) (hf : ∀ c : Console, c.Computes P → (f c).state.Computes P) :
    (o.andThen f).state.Computes P := by
  rcases hhalt : o.halt with - | e
  · rw [Outcome.andThen_of_none hhalt]
    exact hf o.state h
  · rwa [Outcome.andThen_of_some hhalt]

theorem Computes.handleEach (h : c.Computes P) (hP : Lasting P) (events : List Event) :
    (c.handleEach events).state.Computes P := by
  induction events generalizing c with
  | nil => exact h
  | cons e rest ih => exact computes_andThen (h.serve hP (.event e)) fun c hc ↦ ih hc

end

end Console

namespace Action

@[simp] theorem filterMap_signal?_signals (l : List Signal) :
    (signals l).filterMap signal? = l := by
  rw [signals, List.filterMap_map]
  exact List.filterMap_some

@[simp] theorem filterMap_call?_signals (l : List Signal) : (signals l).filterMap call? = [] := by
  rw [signals, List.filterMap_map]
  exact List.filterMap_none l

@[simp] theorem filterMap_signal?_calls (l : List HostCall) : (calls l).filterMap signal? = [] := by
  rw [calls, List.filterMap_map]
  exact List.filterMap_none l

@[simp] theorem filterMap_call?_calls (l : List HostCall) : (calls l).filterMap call? = l := by
  rw [calls, List.filterMap_map]
  exact List.filterMap_some

end Action

namespace Session

open Console (withoutOverlayKey)

variable {r : Renderer} {c : Console} {o : Outcome Console.Failure Console}

/-! ### What is shown -/

/-- The calls that paint a console: its screen with the overlay over it if that is wanted, or the
dark window alone if there is no program. -/
def painted (r : Renderer) (c : Console) : List HostCall :=
  match c.computer? with
  | none => r.clear.1
  | some computer =>
    (r.draw computer.screen).1 ++ if c.debug then r.drawText computer.overlay else []

/-- The calls behind a frame: the console is shown as the frame has left it, and if the frame was
not halted the session waits for its time to pass. -/
def shown (r : Renderer) (o : Outcome Console.Failure Console) : List HostCall :=
  painted r o.state ++ .flip :: if o.halt = none then [.pace frameRate] else []

theorem paints_painted (r : Renderer) (c : Console) : ∀ call ∈ painted r c, call.paints = true := by
  rw [painted]
  split
  · exact r.paints_clear
  · refine List.forall_mem_append.2 ⟨r.paints_draw _, ?_⟩
    split
    · exact r.paints_drawText _
    · exact List.forall_mem_nil _

/-! ### What a part of a session does -/

/-- The signal with which the user is seen off. -/
def farewell : Option Ending → List Signal
  | some .closed => [.notice .windowClosed]
  | _ => []

theorem farewell_none : farewell none = [] := rfl

/-- The part of a session does what is done without a window, and these calls besides. It ends with
the failure if there is one, and else as is said. -/
structure Run.Does (run : Run) (o : Outcome Console.Failure Console) (calls : List HostCall)
    (ending : Option Ending) : Prop where
  console_eq : run.console = o.state
  signals_eq : run.actions.filterMap Action.signal? = o.signals ++ farewell run.ending
  calls_eq : run.actions.filterMap Action.call? = calls
  ending_eq : run.ending = (o.halt.map .failed).or ending

/-- The second part of a session behind the first, which may have been the last. -/
def Run.andThen (first later : Run) : Run :=
  match first.ending with
  | some _ => first
  | none => { later with actions := first.actions ++ later.actions }

theorem Run.andThen_of_none {first : Run} (h : first.ending = none) (later : Run) :
    first.andThen later = { later with actions := first.actions ++ later.actions } := by
  rw [andThen, h]

theorem Run.andThen_of_some {first : Run} {ending : Ending} (h : first.ending = some ending)
    (later : Run) : first.andThen later = first := by
  rw [andThen, h]

/-- **Parts of a session do one after the other what is to be done one after the other.** -/
theorem Run.Does.andThen {first later : Run} {f : Console → Outcome Console.Failure Console}
    {calls calls' : List HostCall} {ending : Option Ending} (h : first.Does o calls none)
    (hlater : o.halt = none → later.Does (f o.state) calls' ending) :
    (first.andThen later).Does (o.andThen f) (calls ++ if o.halt = none then calls' else [])
      ending := by
  obtain ⟨hconsole, hsignals, hcalls, hending⟩ := h
  rcases hhalt : o.halt with - | e
  · obtain ⟨hconsole', hsignals', hcalls', hending'⟩ := hlater hhalt
    have hgoes : first.ending = none := by
      rw [hending, hhalt]
      rfl
    have hquiet : first.actions.filterMap Action.signal? = o.signals := by
      rw [hsignals, hgoes, farewell_none, List.append_nil]
    rw [Run.andThen_of_none hgoes, Outcome.andThen_of_none hhalt]
    refine ⟨hconsole', ?_, ?_, hending'⟩
    · rw [List.filterMap_append, hquiet, hsignals', List.append_assoc]
    · rw [List.filterMap_append, hcalls, hcalls', if_pos rfl]
  · have hends : first.ending = some (.failed e) := by
      rw [hending, hhalt]
      rfl
    rw [Run.andThen_of_some hends, Outcome.andThen_of_some hhalt, if_neg (Option.some_ne_none _),
      List.append_nil]
    exact ⟨hconsole, hsignals, hcalls, hending.trans (by rw [hhalt]; rfl)⟩

/-- The part of a session that carries out an operation and then makes calls. -/
def Run.ofOutcome (o : Outcome Console.Failure Console) (calls : List HostCall) : Run :=
  ⟨o.state, Action.signals o.signals ++ Action.calls calls, o.halt.map .failed⟩

theorem Run.does_ofOutcome (o : Outcome Console.Failure Console) (calls : List HostCall) :
    (Run.ofOutcome o calls).Does o calls none where
  console_eq := rfl
  signals_eq := by
    have hquiet : farewell (o.halt.map .failed) = [] := by
      rcases o.halt with - | e <;> rfl
    rw [ofOutcome, List.filterMap_append, Action.filterMap_signal?_signals,
      Action.filterMap_signal?_calls, hquiet]
  calls_eq := by
    rw [ofOutcome, List.filterMap_append, Action.filterMap_call?_signals,
      Action.filterMap_call?_calls, List.nil_append]
  ending_eq := Option.or_none.symm

/-! ### Turns -/

theorem handleAll_cons {e : Event} (hquit : e ≠ .quit) (c : Console) (rest : List Event) :
    handleAll c (e :: rest) =
      (Run.ofOutcome (c.handle e) []).andThen (handleAll (c.handle e).state rest) := by
  rw [handleAll, Run.andThen, Run.ofOutcome]
  · rcases (c.handle e).halt with - | f
    · simp only [Option.map_none, Action.calls, List.map_nil, List.append_nil]
    · simp only [Option.map_some, Action.calls, List.map_nil, List.append_nil]
  · exact hquit

/-- What has come in is handled event by event, up to a request to quit. -/
theorem handleAll_does (c : Console) (batch : List Event) :
    (handleAll c batch).Does (c.handleEach (beforeQuit batch)) []
      (if .quit ∈ batch then some .closed else none) := by
  induction batch generalizing c with
  | nil => exact ⟨rfl, rfl, rfl, rfl⟩
  | cons e rest ih =>
    by_cases hquit : e = .quit
    · rw [hquit, if_pos List.mem_cons_self]
      exact ⟨rfl, rfl, rfl, rfl⟩
    · have hmem : .quit ∈ e :: rest ↔ .quit ∈ rest :=
        List.mem_cons.trans (or_iff_right fun h ↦ hquit h.symm)
      have hdoes := (Run.does_ofOutcome (c.handle e) []).andThen
        (f := fun c ↦ c.handleEach (beforeQuit rest)) fun _ ↦ ih (c.handle e).state
      rw [handleAll_cons hquit, beforeQuit_cons hquit, Console.handleEach]
      simp only [hmem]
      rwa [ite_self, List.append_nil] at hdoes

theorem present_eq {computer : Computer} (hwork : c.work = .running computer)
    (hdraw : (r.draw computer.screen).2 = none) :
    present r c = (painted r c ++ [.flip], none) := by
  have hcomputer : c.computer? = some computer := by
    rw [Console.computer?, hwork]
  have hsame : c.screen = computer.screen := by
    rw [Console.screen, hwork]
  rw [present, painted, hcomputer, hsame]
  simp only [hdraw]
  rcases c.debug with - | -
  · rfl
  · rfl

theorem work_runFrame {computer : Computer} (hwork : c.work = .running computer) :
    c.runFrame.state.work = .running computer.runFrame.state := by
  rw [Console.runFrame, hwork]
  rfl

/-- A frame of a program is run and shown, whether or not it was halted, **if the screen that it
leaves can be drawn**. -/
theorem frame_of_drawn {computer : Computer} (hwork : c.work = .running computer)
    (hdraw : (r.draw computer.runFrame.state.screen).2 = none) :
    frame r c = Run.ofOutcome c.frameSteps (shown r c.frameSteps) := by
  rw [Console.frameSteps_eq_runFrame, frame, Console.isLoaded_of_running hwork]
  simp only [present_eq (work_runFrame hwork) hdraw]
  rcases hhalt : c.runFrame.halt with - | f
  · simp [shown, Run.ofOutcome, hhalt, Action.calls]
  · simp [shown, Run.ofOutcome, hhalt, Action.calls]

/-- **A frame is run and shown**, with a program or without one: the drawing does not fail. -/
theorem frame_eq (hr : r.HasWindow) (hc : c.Computes (·.screen.OfProgram)) :
    frame r c = Run.ofOutcome c.frameSteps (shown r c.frameSteps) := by
  rcases hwork : c.work with ⟨screen, keypad, clock, memory⟩ | computer
  · have hidle : c.computer? = none := by
      rw [Console.computer?, hwork]
    have hdone : c.runFrame = .done c := by
      rw [Console.runFrame, hwork]
    rw [Console.frameSteps_eq_runFrame, frame, Console.isLoaded, hidle, hdone, shown, Outcome.done,
      painted, hidle, hr.served.clear_eq]
    rfl
  · have hlater : c.runFrame.state.Computes (·.screen.OfProgram) :=
      hc.serve Console.lasting_ofProgram .frame
    exact frame_of_drawn hwork (Renderer.draw_eq_ok hr (hlater _ (work_runFrame hwork)))

/-- The frames that are begun behind a batch, where nobody wants to quit. -/
theorem flatMap_shown_frameEnds {batch : List Event} (hquit : .quit ∉ batch) (frameTime : Int)
    (rest : List (List Event)) (c : Console) :
    (frameEnds frameTime (batch :: rest) c).flatMap (shown r) =
      (if (handled frameTime batch c).halt = none then
        shown r (handled frameTime batch c).state.frameSteps else []) ++
      if ((handled frameTime batch c).andThen Console.frameSteps).halt = none then
        (frameEnds frameTime rest
          ((handled frameTime batch c).andThen Console.frameSteps).state).flatMap (shown r)
      else [] := by
  rcases hhalt : (handled frameTime batch c).halt with - | e
  · rw [frameEnds, if_neg (not_or.2 ⟨hquit, not_not.2 hhalt⟩), Outcome.andThen_of_none hhalt,
      if_pos rfl, List.flatMap_cons]
    congr 1
    split
    · rfl
    · rfl
  · have hfails : (handled frameTime batch c).halt ≠ none := by
      rw [hhalt]
      exact Option.some_ne_none e
    rw [frameEnds, if_pos (.inr hfails), Outcome.andThen_of_some hhalt,
      if_neg (Option.some_ne_none e), if_neg hfails]
    rfl

theorem handled_does (frameTime : Int) (batch : List Event) (c : Console) :
    (handleAll (c.advance frameTime) batch).Does (handled frameTime batch c) []
      (if .quit ∈ batch then some .closed else none) :=
  handleAll_does _ batch

theorem computes_handled (hc : c.Computes (·.screen.OfProgram)) (frameTime : Int)
    (batch : List Event) : (handled frameTime batch c).state.Computes (·.screen.OfProgram) :=
  (hc.advance Console.lasting_ofProgram.clock frameTime).handleEach Console.lasting_ofProgram _

theorem turn_events (r : Renderer) (frameTime : Int) (c : Console) (batch : List Event) :
    turn r frameTime c (.events batch) =
      (handleAll (c.advance frameTime) batch).andThen
        (frame r (handleAll (c.advance frameTime) batch).console) := rfl

theorem turns_cons (r : Renderer) (frameTime : Int) (poll : Poll) (rest : List Poll) (c : Console) :
    turns r frameTime (poll :: rest) c =
      (turn r frameTime c poll).andThen
        (turns r frameTime rest (turn r frameTime c poll).console) := rfl

/-- A batch with a request to quit is the last. -/
theorem turns_of_quit {batch : List Event} (hquit : .quit ∈ batch) (frameTime : Int)
    (rest : List Poll) (c : Console) :
    turns r frameTime (.events batch :: rest) c = handleAll (c.advance frameTime) batch := by
  obtain ⟨ending, hends⟩ :
      ∃ ending, (handleAll (c.advance frameTime) batch).ending = some ending := by
    rw [(handled_does frameTime batch c).ending_eq, if_pos hquit]
    rcases (handled frameTime batch c).halt with - | f
    · exact ⟨.closed, rfl⟩
    · exact ⟨.failed f, rfl⟩
  rw [turns_cons, turn_events, Run.andThen_of_some hends, Run.andThen_of_some hends]

/-- **What a turn does**, if nobody wants to quit. -/
theorem turn_does (hr : r.HasWindow) (hc : c.Computes (·.screen.OfProgram)) (frameTime : Int)
    {batch : List Event} (hquit : .quit ∉ batch) :
    (turn r frameTime c (.events batch)).Does
      ((handled frameTime batch c).andThen Console.frameSteps)
      (if (handled frameTime batch c).halt = none then
        shown r (handled frameTime batch c).state.frameSteps else []) none := by
  have hdoes := handled_does frameTime batch c
  rw [if_neg hquit] at hdoes
  refine hdoes.andThen fun _ ↦ ?_
  rw [hdoes.console_eq, frame_eq hr (computes_handled hc frameTime batch)]
  exact Run.does_ofOutcome _ _

/-- By induction on the batches; every turn is left with a screen that can be drawn. -/
theorem turns_does (hr : r.HasWindow) (hc : c.Computes (·.screen.OfProgram)) (frameTime : Int)
    (batches : List (List Event)) :
    (turns r frameTime (batches.map .events) c).Does (unwatched frameTime batches c)
      ((frameEnds frameTime batches c).flatMap (shown r)) (some .closed) := by
  induction batches generalizing c with
  | nil => exact ⟨rfl, rfl, rfl, rfl⟩
  | cons batch rest ih =>
    rw [List.map_cons, unwatched]
    by_cases hquit : .quit ∈ batch
    · have hdoes := handled_does frameTime batch c
      rw [if_pos hquit] at hdoes
      rw [turns_of_quit hquit, if_pos hquit, frameEnds, if_pos (.inl hquit)]
      exact hdoes
    · have hturn := turn_does hr hc frameTime hquit
      have hscreen : ((handled frameTime batch c).andThen Console.frameSteps).state.Computes
          (·.screen.OfProgram) :=
        Console.computes_andThen (computes_handled hc frameTime batch) fun c hc ↦
          hc.frameSteps Console.lasting_ofProgram
      rw [turns_cons, hturn.console_eq, if_neg hquit, ← Outcome.andThen_assoc,
        flatMap_shown_frameEnds hquit]
      exact hturn.andThen fun _ ↦ ih hscreen

/-! ### Whole sessions -/

theorem run_does (hr : r.HasWindow) (hc : c.Computes (·.screen.OfProgram)) (frameTime : Int)
    (batches : List (List Event)) :
    (run r frameTime (batches.map .events) c).Does (unwatched frameTime batches c)
      (.startFonts :: overlayFont :: (frameEnds frameTime batches c).flatMap (shown r))
      (some .closed) := by
  obtain ⟨hconsole, hsignals, hcalls, hending⟩ := turns_does hr hc frameTime batches
  refine ⟨hconsole, ?_, ?_, hending⟩
  · rw [run, List.filterMap_append, Action.filterMap_signal?_calls, List.nil_append, hsignals]
  · rw [run, List.filterMap_append, Action.filterMap_call?_calls, hcalls]
    rfl

/-- The sessions leave the same console but for the flag of the overlay, send the same signals and
end alike. -/
structure Run.SameButFlag (first second : Run) : Prop where
  console_eq : second.console = first.console.setDebug second.console.debug
  signals_eq : second.actions.filterMap Action.signal? = first.actions.filterMap Action.signal?
  ending_eq : second.ending = first.ending

/-- The calls that sessions make are nothing to them. -/
theorem Run.Does.sameButFlag {first second : Run} {o' : Outcome Console.Failure Console}
    {calls calls' : List HostCall} {ending : Option Ending} (h : first.Does o calls ending)
    (h' : second.Does o' calls' ending) (hsame : Console.SameButFlag o o') :
    first.SameButFlag second := by
  obtain ⟨on, rfl⟩ := hsame
  have hending : second.ending = first.ending := h'.ending_eq.trans h.ending_eq.symm
  refine ⟨?_, ?_, hending⟩
  · rw [h'.console_eq, h.console_eq]
    rfl
  · rw [h'.signals_eq, h.signals_eq, hending]
    rfl

/-- **A session does what it would do without a window**, and it paints and shows every frame that
is begun; only the last of them can have been halted. Whatever the window, the colors, the flag of
the overlay and the presses of its key are, the session leaves the same console but for that flag,
sends the same signals and ends alike. -/
theorem refines_unwatched {start : Console} (hidle : start.isLoaded = false)
    (history : List Console.Request) {r : Renderer} (hr : r.HasWindow) (frameTime : Int)
    (batches : List (List Event)) :
    let c := start.after history
    let session := run r frameTime (batches.map .events) c
    session.Does (unwatched frameTime batches c)
        (.startFonts :: overlayFont :: (frameEnds frameTime batches c).flatMap (shown r))
        (some .closed) ∧
      (frameEnds frameTime batches c).Pairwise (fun o _ ↦ o.halt = none) ∧
      (∀ o ∈ frameEnds frameTime batches c, ∀ call ∈ painted r o.state, call.paints = true) ∧
      ∀ (r' : Renderer) (on : Bool) (batches' : List (List Event)), r'.HasWindow →
        batches'.map withoutOverlayKey = batches.map withoutOverlayKey →
        session.SameButFlag (run r' frameTime (batches'.map .events) (c.setDebug on)) := by
  intro c session
  have hc : c.Computes (·.screen.OfProgram) :=
    (Console.computes_of_idle hidle).after Console.lasting_ofProgram history
  refine ⟨run_does hr hc frameTime batches, pairwise_frameEnds frameTime batches c,
    fun o _ ↦ paints_painted r o.state, ?_⟩
  intro r' on batches' hr' hbatches
  have halone := sameButFlag_unwatched frameTime batches c c.debug
  have halone' := sameButFlag_unwatched frameTime batches' c on
  rw [hbatches] at halone'
  have hc' : (c.setDebug on).Computes (·.screen.OfProgram) := hc
  exact (run_does hr hc frameTime batches).sameButFlag (run_does hr' hc' frameTime batches')
    (halone.of_common halone')

/-- The program starts the sound and returns with nothing to return to, so that it goes on in the
digits. -/
def strayed : List Console.Request := [.loadBytes [0x60, 0x05, 0xF0, 0x18, 0x00, 0xEE] .standard]

/-- Where the program ends up. -/
def lost : Console.Failure :=
  .halted (.fault { cause := .noRoomForCall 112, context := some ⟨8, 255, 0, some 0x2070⟩ })

/-- Two sessions that come to a fault in their first frame: one in a small window, in which the
overlay is turned on before the frame, and one in a larger window that has it from the beginning. -/
theorem refines_unwatched_strayed :
    let c := Console.handClocked.after strayed
    let window : Renderer := { windowWidth := 128, windowHeight := 64 }
    let window' : Renderer := { windowWidth := 640, windowHeight := 480, lineHeight := some 14 }
    let batches : List (List Event) := [[.keyDown 113, .keyDown overlayKey], [.quit]]
    let batches' : List (List Event) := [[.keyDown 113, .keyUp overlayKey], [.quit]]
    let session := run window 20000 (batches.map .events) c
    let session' := run window' 20000 (batches'.map .events) (c.setDebug true)
    Console.handClocked.isLoaded = false ∧ window.HasWindow ∧ window'.HasWindow ∧
      batches'.map withoutOverlayKey = batches.map withoutOverlayKey ∧
      session.ending = some (.failed lost) ∧
      session.actions.filterMap Action.call? =
        .startFonts :: overlayFont :: (frameEnds 20000 batches c).flatMap (shown window) ∧
      (frameEnds 20000 batches c).map Outcome.halt = [some lost] ∧
      session.SameButFlag session' := by
  intro c window window' batches batches' session session'
  have hr : window.HasWindow :=
    ⟨by decide, by decide, Renderer.served_of_lenient rfl⟩
  have hr' : window'.HasWindow :=
    ⟨by decide, by decide, Renderer.served_of_lenient rfl⟩
  have hbatches : batches'.map withoutOverlayKey = batches.map withoutOverlayKey := by decide
  obtain ⟨hdoes, -, -, hsame⟩ :=
    refines_unwatched (rfl : Console.handClocked.isLoaded = false) strayed hr 20000 batches
  have hfails : (unwatched 20000 batches c).halt = some lost := by decide +kernel
  have hframes : (frameEnds 20000 batches c).map Outcome.halt = [some lost] := by decide +kernel
  refine ⟨rfl, hr, hr', hbatches, ?_, hdoes.calls_eq, hframes,
    hsame window' true batches' hr' hbatches⟩
  rw [hdoes.ending_eq, hfails]
  rfl

end Session

end ChipEight
