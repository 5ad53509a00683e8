import ChipEight.Proofs.Computer.KeypadUse
import ChipEight.Proofs.Console.Silence
import ChipEight.Proofs.Input.KeyMap
import Mathlib.Logic.Function.Iterate

/-!
# What the events at the window come to

Of everything that is asked of a console only events move keys and turn the overlay, apart from the
requests that do it directly. Programs that come and go, frames, steps and resets have no part in it
(`SameFront`), and an event concerns **the one key that it is about** (`down_moved`).

So the past of a key of the keypad is that of the one host key which stands for it, and of that only
the last event counts. The overlay has been turned as often as its key went down. Both are said by
`front_after`, by induction on what was asked.

What is left for an event to do is a reset, if it is the key for it that goes down and there is a
program. Any other event has changed the keypad or the overlay and **nothing else**
(`handle_eq_done`), and is never refused, because the codes of the standard map are all codes of
keys.
-/

namespace ChipEight

/-! ### Events -/

/-- What an event says of a host key: whether it went down or up, if it did either. -/
def Event.move? (key : Int) : Event → Option Bool
  | keyDown k => if k = key then some true else none
  | keyUp k => if k = key then some false else none
  | _ => none

/-- The key for the overlay goes down. -/
def Event.turnsOverlay : Event → Bool
  | keyDown key => key == overlayKey
  | _ => false

/-- The keypad behind a host key that went down or up. One without a code changes nothing. -/
def Keypad.moved (pad : Keypad) (key : Int) (isDown : Bool) : Keypad :=
  match (KeyMap.standard.get? key).bind (signedIndex? 16) with
  | some k => pad.set k isDown
  | none => pad

theorem Keypad.moved_of_none {key : Int} (h : KeyMap.standard.get? key = none) (pad : Keypad)
    (isDown : Bool) : pad.moved key isDown = pad := by
  rw [moved, h, Option.bind_none]

/-- The keypad behind an event. -/
def Event.move (pad : Keypad) : Event → Keypad
  | keyDown key => pad.moved key true
  | keyUp key => pad.moved key false
  | _ => pad

/-- A host key moves the key of the keypad that it stands for, and **no other**. -/
theorem Keypad.down_moved {code : Fin 16} {key : Int} (hkey : KeyMap.IsHostKeyOf key code)
    (pad : Keypad) (k : Int) (isDown : Bool) :
    (pad.moved k isDown).down.get code = if k = key then isDown else pad.down.get code := by
  by_cases heq : k = key
  · rw [moved, (hkey k).2 heq, Option.bind_some, signedIndex?_natCast code.isLt, if_pos heq]
    exact (pad.down_set code code isDown).trans (if_pos rfl)
  · rw [if_neg heq, moved]
    rcases hget : KeyMap.standard.get? k with - | other
    · rfl
    obtain ⟨j, rfl⟩ := KeyMap.exists_eq_of_get?_standard hget
    have hne : j ≠ code := by
      rintro rfl
      exact heq ((hkey k).1 hget)
    rw [Option.bind_some, signedIndex?_natCast j.isLt]
    exact (pad.down_set j code isDown).trans (if_neg hne)

/-- So an event decides on a key of the keypad only if it is about its host key. -/
theorem Event.down_move {code : Fin 16} {key : Int} (hkey : KeyMap.IsHostKeyOf key code)
    (pad : Keypad) (e : Event) :
    (e.move pad).down.get code = (e.move? key).getD (pad.down.get code) := by
  cases e with
  | keyDown k | keyUp k =>
    rw [move, Keypad.down_moved hkey, move?]
    split <;> rfl
  | quit | other => rfl

namespace Computer

/-- **A reset moves no key**, however it ends. -/
theorem keypad_reset (c : Computer) : c.reset.state.keypad = c.keypad := by
  rcases hhalt : c.reset.halt with - | e
  · obtain ⟨-, now, -, heq⟩ := exists_reset_eq hhalt
    rw [heq]
    rfl
  · obtain ⟨registers, memory, random, heq⟩ := exists_reset_eq_of_some hhalt
    rw [heq]

/-- A computer is switched on with the keypad as it is. -/
theorem keypad_boot {config : Config} {memory : Memory} {screen : Screen} {keypad : Keypad}
    {sink : Option Sink} {clock : Clock Binary64} {booted : Outcome Halt Computer}
    (h : boot config memory screen keypad sink clock = .ok booted) :
    booted.state.keypad = keypad := by
  rw [boot] at h
  rcases hfirst : clock.now with e | first
  · rw [unstarted, hfirst] at h
    cases h
  · obtain ⟨c, hc, -, -, -, rfl, -⟩ := exists_unstarted_eq config memory screen keypad sink hfirst
    rw [hc] at h
    cases h
    exact c.keypad_reset

end Computer

namespace Console

variable {c c' : Console} {request : Request} {e : Event}

/-- The console with the keypad that it has. -/
theorem setKeypad_keypad (c : Console) : c.setKeypad c.keypad = c := by
  rcases c with ⟨work, sink, hiresSwitch, stepsPerFrame, wallClock, debug⟩
  rcases work with ⟨screen, keypad, clock, memory⟩ | computer
  · rfl
  · rfl

theorem keypad_setKeypad (c : Console) (pad : Keypad) : (c.setKeypad pad).keypad = pad := by
  rw [setKeypad]
  split
  · rfl
  · rfl

theorem debug_setKeypad (c : Console) (pad : Keypad) : (c.setKeypad pad).debug = c.debug := by
  rw [setKeypad]
  split
  · rfl
  · rfl

/-- The key for a reset goes down, and there is a program to be reset. -/
def Resets (c : Console) (e : Event) : Prop := e = .keyDown resetKey ∧ c.isLoaded = true

/-- **A host key is never refused**, since there are keys for all codes of the standard map. -/
theorem changeKeypad_of_get? {key code : Int} (h : KeyMap.standard.get? key = some code)
    (c : Console) :
    c.changeKeypad (c.keypad.press code) = .done (c.setKeypad (c.keypad.moved key true)) ∧
      c.changeKeypad (c.keypad.release code) = .done (c.setKeypad (c.keypad.moved key false)) := by
  obtain ⟨k, rfl⟩ := KeyMap.exists_eq_of_get?_standard h
  have hk : signedIndex? 16 k.val = some k := signedIndex?_natCast k.isLt
  simp only [Keypad.moved, h, Option.bind_some, Keypad.press, Keypad.release, Keypad.key, hk]
  exact ⟨rfl, rfl⟩

theorem handle_keyUp (c : Console) (key : Int) :
    c.handle (.keyUp key) = .done (c.setKeypad (c.keypad.moved key false)) := by
  rw [handle]
  split
  · next hget => exact (changeKeypad_of_get? hget c).2
  · next hget => rw [Keypad.moved_of_none hget, setKeypad_keypad]

theorem handle_keyDown {key : Int} (hreset : key ≠ resetKey) (hoverlay : key ≠ overlayKey)
    (c : Console) : c.handle (.keyDown key) = .done (c.setKeypad (c.keypad.moved key true)) := by
  rw [handle, if_neg hreset, if_neg hoverlay]
  split
  · next hget => exact (changeKeypad_of_get? hget c).1
  · next hget => rw [Keypad.moved_of_none hget, setKeypad_keypad]

/-- **What an event does that resets nothing**: it moves a key, turns the overlay or neither. -/
theorem handle_eq_done (h : ¬ c.Resets e) :
    c.handle e = .done ((c.setKeypad (e.move c.keypad)).setDebug (c.debug ^^ e.turnsOverlay)) := by
  have hmoves : ∀ pad, c.setKeypad pad = (c.setKeypad pad).setDebug (c.debug ^^ false) := by
    intro pad
    rw [Bool.xor_false, ← c.debug_setKeypad pad]
    rfl
  have hnothing : c = (c.setKeypad c.keypad).setDebug (c.debug ^^ false) := by
    rw [← hmoves, setKeypad_keypad]
  cases e with
  | keyDown key =>
    rw [Event.move, Event.turnsOverlay]
    by_cases hreset : key = resetKey
    · subst hreset
      rw [handle, if_pos rfl, if_neg fun hloaded ↦ h ⟨rfl, hloaded⟩,
        Keypad.moved_of_none KeyMap.get?_resetKey]
      exact congrArg Outcome.done hnothing
    by_cases hoverlay : key = overlayKey
    · subst hoverlay
      rw [handle, if_neg hreset, if_pos rfl, Keypad.moved_of_none KeyMap.get?_overlayKey,
        setKeypad_keypad, beq_self_eq_true, Bool.xor_true]
    · rw [handle_keyDown hreset hoverlay, beq_false_of_ne hoverlay]
      exact congrArg Outcome.done (hmoves _)
  | keyUp key =>
    rw [handle_keyUp]
    exact congrArg Outcome.done (hmoves _)
  | quit | other => exact congrArg Outcome.done hnothing

theorem handle_eq_softReset (h : c.Resets e) : c.handle e = c.softReset := by
  rw [h.1, handle, if_pos rfl, if_pos h.2]

/-! ### What does not move keys -/

/-- The keypad and the overlay are as they were. -/
structure SameFront (c c' : Console) : Prop where
  keypad_eq : c'.keypad = c.keypad
  debug_eq : c'.debug = c.debug

theorem sameFront_withComputer {computer computer' : Computer} (hwork : c.work = .running computer)
    (h : computer'.keypad = computer.keypad) : c.SameFront (c.withComputer computer') :=
  ⟨by simp only [keypad, withComputer, hwork, h], rfl⟩

theorem sameFront_switchOn (c : Console) (memory : Memory) (platform : Platform) :
    c.SameFront (c.switchOn memory platform).state := by
  rw [switchOn]
  rcases hboot : Computer.boot (c.config platform) memory c.screen c.keypad c.sink c.clock with
    e | booted
  · exact ⟨rfl, rfl⟩
  have hkeypad : booted.state.keypad = c.keypad := Computer.keypad_boot hboot
  rcases hhalt : booted.halt with - | e
  · simp only [hhalt]
    exact ⟨hkeypad, rfl⟩
  · simp only [hhalt]
    exact ⟨hkeypad, rfl⟩

theorem sameFront_loadBytes (c : Console) (program : List UInt8) (platform : Platform) :
    c.SameFront (c.loadBytes program platform).state := by
  rcases hrun : image program platform with ⟨memory, - | cause⟩
  · rw [loadBytes_of_fits (congrArg Prod.snd hrun), Outcome.andThen_of_none rfl]
    obtain ⟨hkeypad, hdebug⟩ := c.unload.sameFront_switchOn (image program platform).1 platform
    exact ⟨hkeypad, hdebug⟩
  · rw [image] at hrun
    simp only [loadBytes, hrun]
    exact ⟨rfl, rfl⟩

/-- **The keypad outlives programs**, and so does the overlay. -/
theorem sameFront_load (c : Console) (hload : request.isLoad = true) :
    c.SameFront (c.serve request).state := by
  cases request with
  | loadBytes program platform => exact c.sameFront_loadBytes program platform
  | loadFile directory name platform =>
    rw [serve]
    -- Its equation takes long to be generated, because two of its cases overlap.
    unfold loadFile
    dsimp only
    split
    · exact ⟨rfl, rfl⟩
    · exact ⟨rfl, rfl⟩
    · rw [Outcome.andThen_of_none rfl]
      obtain ⟨hkeypad, hdebug⟩ := c.unload.sameFront_loadBytes ‹_› platform
      exact ⟨hkeypad, hdebug⟩
  | _ => exact absurd hload Bool.false_ne_true

theorem sameFront_softReset (c : Console) : c.SameFront c.softReset.state := by
  rcases hwork : c.work with ⟨screen, keypad, clock, memory⟩ | computer
  · simp only [softReset, hwork]
    exact ⟨rfl, rfl⟩
  · simp only [softReset, hwork]
    exact sameFront_withComputer hwork computer.keypad_reset

/-! ### Requests -/

/-- The request is for a key of the keypad or for the overlay, and comes from no event. -/
def Request.isDirect : Request → Bool
  | press _ => true
  | release _ => true
  | setDebug _ => true
  | _ => false

/-- What a request says of a host key. -/
def Request.move? (key : Int) : Request → Option Bool
  | event e => e.move? key
  | _ => none

/-- The key for the overlay goes down. -/
def Request.turnsOverlay : Request → Bool
  | event e => e.turnsOverlay
  | _ => false

/-- **Only events move keys and turn the overlay**, apart from what does so directly. -/
theorem sameFront_serve (c : Console) (hdirect : request.isDirect = false)
    (hevent : ∀ e, request ≠ .event e) : c.SameFront (c.serve request).state := by
  cases request with
  | loadBytes | loadFile => exact c.sameFront_load rfl
  | press | release | setDebug => exact nomatch hdirect
  | event e => exact absurd rfl (hevent e)
  | softReset => exact c.sameFront_softReset
  | frame =>
    rcases hwork : c.work with ⟨screen, keypad, clock, memory⟩ | computer
    · simp only [serve, runFrame, hwork]
      exact ⟨rfl, rfl⟩
    · simp only [serve, runFrame, hwork]
      refine sameFront_withComputer hwork ?_
      exact Computer.steps_preserves (P := fun computer' ↦ computer'.keypad = computer.keypad)
        (fun computer' h ↦ computer'.keypad_step.trans h) _ rfl
  | step =>
    rcases hwork : c.work with ⟨screen, keypad, clock, memory⟩ | computer
    · simp only [serve, step, hwork]
      exact ⟨rfl, rfl⟩
    · simp only [serve, step, hwork]
      exact sameFront_withComputer hwork computer.keypad_step
  | moveClock d =>
    rcases hwork : c.work with ⟨screen, pad, clock, memory⟩ | computer
    · exact ⟨by simp only [serve, Outcome.done, keypad, advance, hwork],
        by simp only [serve, Outcome.done, advance, hwork]⟩
    · exact ⟨by simp only [serve, Outcome.done, keypad, advance, hwork],
        by simp only [serve, Outcome.done, advance, hwork]⟩
  | setSink sink =>
    rcases hwork : c.work with ⟨screen, pad, clock, memory⟩ | computer
    · exact ⟨by simp only [serve, Outcome.done, keypad, setSink, hwork],
        by simp only [serve, Outcome.done, setSink, hwork]⟩
    · exact ⟨by simp only [serve, Outcome.done, keypad, setSink, hwork, Computer.setSink],
        by simp only [serve, Outcome.done, setSink, hwork]⟩

theorem debug_handle (c : Console) (e : Event) :
    (c.handle e).state.debug = (c.debug ^^ e.turnsOverlay) := by
  by_cases hresets : c.Resets e
  · rw [handle_eq_softReset hresets, c.sameFront_softReset.debug_eq, hresets.1]
    exact (Bool.xor_false _).symm
  · rw [handle_eq_done hresets]
    rfl

theorem keypad_handle (c : Console) (e : Event) :
    (c.handle e).state.keypad = e.move c.keypad := by
  by_cases hresets : c.Resets e
  · rw [handle_eq_softReset hresets, c.sameFront_softReset.keypad_eq, hresets.1]
    exact (Keypad.moved_of_none KeyMap.get?_resetKey c.keypad true).symm
  · rw [handle_eq_done hresets]
    exact c.keypad_setKeypad _

/-- **What one request does to a key of the keypad and to the overlay.** -/
theorem front_serve (c : Console) (hdirect : request.isDirect = false) :
    (∀ (code : Fin 16) key, KeyMap.IsHostKeyOf key code →
      (c.serve request).state.keypad.down.get code =
        (request.move? key).getD (c.keypad.down.get code)) ∧
      (c.serve request).state.debug = (c.debug ^^ request.turnsOverlay) := by
  by_cases hevent : ∃ e, request = .event e
  · obtain ⟨e, rfl⟩ := hevent
    refine ⟨fun code key hkey ↦ ?_, c.debug_handle e⟩
    rw [serve, keypad_handle]
    exact Event.down_move hkey c.keypad e
  · have hevent' : ∀ e, request ≠ .event e := fun e h ↦ hevent ⟨e, h⟩
    obtain ⟨hkeypad, hdebug⟩ := c.sameFront_serve hdirect hevent'
    rw [hkeypad, hdebug]
    cases request with
    | event e => exact absurd rfl (hevent' e)
    | _ => exact ⟨fun _ _ _ ↦ rfl, (Bool.xor_false _).symm⟩

/-- **Of the events about a host key the last one counts, and every turn of the overlay does.** By
induction on the requests, the last one split off. -/
theorem front_after (c : Console) {requests : List Request}
    (hdirect : ∀ request ∈ requests, request.isDirect = false) :
    (∀ (code : Fin 16) key, KeyMap.IsHostKeyOf key code →
      (c.after requests).keypad.down.get code =
        ((requests.filterMap (Request.move? key)).getLast?).getD (c.keypad.down.get code)) ∧
      (c.after requests).debug = not^[requests.countP Request.turnsOverlay] c.debug := by
  induction requests using List.reverseRecOn with
  | nil => exact ⟨fun _ _ _ ↦ rfl, rfl⟩
  | append_singleton requests request ih =>
    obtain ⟨hrequests, hrequest⟩ := List.forall_mem_append.1 hdirect
    obtain ⟨hkeys, hdebug⟩ := ih hrequests
    obtain ⟨hkeys', hdebug'⟩ :=
      (c.after requests).front_serve (hrequest request (List.mem_singleton_self request))
    have hafter : c.after (requests ++ [request]) = ((c.after requests).serve request).state :=
      after_append c requests [request]
    rw [hafter]
    constructor
    · intro code key hkey
      rw [hkeys' code key hkey, hkeys code key hkey, List.filterMap_append, List.getLast?_append]
      rcases hmove : request.move? key with - | isDown
      · rw [List.filterMap_cons_none hmove]
        rfl
      · rw [List.filterMap_cons_some hmove]
        rfl
    · rw [hdebug', hdebug, List.countP_append, List.countP_singleton]
      rcases hturns : request.turnsOverlay with - | -
      · exact Bool.xor_false _
      · rw [if_pos rfl, Function.iterate_succ_apply']
        exact Bool.xor_true _

/-! ### Resets -/

/-- A computer of a console has room for the font. -/
theorem lasting_room : Lasting fun computer ↦ 80 ≤ computer.memory.capacity where
  boot := fun hboot hdone ↦ by
    obtain ⟨hcap, clock', now, rfl⟩ := Computer.exists_eq_fresh_of_boot hboot hdone
    exact (Computer.capacity_fresh _ _ _ _ _ _).symm ▸ hcap
  step := fun computer h ↦ computer.sameSetup_step.capacity_eq.symm ▸ h
  reset := fun computer h ↦ (Computer.capacity_reset h).symm ▸ h
  keypad := fun _ _ h ↦ h
  clock := fun _ _ h ↦ h
  sink := fun _ _ h ↦ h

/-- **With room for the font only the clock can stop a reset.** -/
theorem halt_softReset (hroom : c.Computes fun computer ↦ 80 ≤ computer.memory.capacity)
    (hloaded : c.isLoaded = true) :
    c.softReset.halt = none ∨
      ∃ e, c.clock.now = .error e ∧ c.softReset.halt = some (.halted (.host e)) := by
  rcases hwork : c.work with ⟨screen, keypad, clock, memory⟩ | computer
  · rw [isLoaded, computer?, hwork] at hloaded
    exact absurd hloaded Bool.false_ne_true
  · have hreset := Computer.reset_eq (hroom computer hwork)
    have hclock : c.clock = computer.clock := by rw [clock, hwork]
    simp only [softReset, hwork, Outcome.andThen_of_none, Outcome.noted, hreset, hclock]
    rcases computer.clock.now with e | now
    · exact .inr ⟨e, rfl, rfl⟩
    · exact .inl rfl

/-! ### All together -/

/-- **Events move keys, turn the overlay and reset, and that is all.** A console that begins without
a program is used in any way until all keys are up, and from there on without anything that moves
keys or turns the overlay but events. Then a key of the keypad is down exactly if of the events
about its host key, of which there is one, the last one was that it went down, and the overlay was
turned as often as its key went down. Of the events that may come now, that the key for a reset goes
down while a program is loaded is the reset, and leaves the keypad and the overlay alone; it ends,
unless the clock has no answer. Every other event ends, and changes nothing but the keypad and the
overlay. -/
theorem events_reach_keys {c₀ : Console} (hidle : c₀.isLoaded = false) (past : List Request)
    (hup : (c₀.after past).keypad = .allUp) (requests : List Request)
    (hdirect : ∀ request ∈ requests, request.isDirect = false) :
    let c := (c₀.after past).after requests
    (∀ code : Fin 16, ∃ key, KeyMap.IsHostKeyOf key code ∧
        (c.keypad.down.get code = true ↔
          (requests.filterMap (Request.move? key)).getLast? = some true)) ∧
      c.debug = not^[requests.countP Request.turnsOverlay] (c₀.after past).debug ∧
      ∀ e : Event,
        (e = .keyDown resetKey ∧ c.isLoaded = true →
          c.handle e = c.softReset ∧ (c.handle e).state.keypad = c.keypad ∧
            (c.handle e).state.debug = c.debug ∧
            ((c.handle e).halt = none ∨
              ∃ err, c.clock.now = .error err ∧ (c.handle e).halt = some (.halted (.host err)))) ∧
        (¬ (e = .keyDown resetKey ∧ c.isLoaded = true) →
          ∃ pad on, c.handle e = .done ((c.setKeypad pad).setDebug on)) := by
  intro c
  obtain ⟨hkeys, hdebug⟩ := (c₀.after past).front_after hdirect
  have hroom : c.Computes fun computer ↦ 80 ≤ computer.memory.capacity :=
    ((computes_of_idle hidle).after lasting_room past).after lasting_room requests
  refine ⟨fun code ↦ ?_, hdebug, fun e ↦ ⟨fun hresets ↦ ?_, fun hresets ↦ ?_⟩⟩
  · obtain ⟨key, hkey⟩ := KeyMap.exists_isHostKeyOf code
    have hstart : (c₀.after past).keypad.down.get code = false := by
      rw [hup]
      exact Vector.getElem_replicate code.isLt
    refine ⟨key, hkey, ?_⟩
    rw [show c.keypad.down.get code = _ from hkeys code key hkey, hstart]
    rcases (requests.filterMap (Request.move? key)).getLast? with - | - | - <;> simp
  · have heq : c.handle e = c.softReset := handle_eq_softReset hresets
    rw [heq]
    exact ⟨rfl, c.sameFront_softReset.keypad_eq, c.sameFront_softReset.debug_eq,
      halt_softReset hroom hresets.2⟩
  · exact ⟨_, _, handle_eq_done hresets⟩

/-- The key `w` goes down and up and down again around a frame and a reset, while the overlay is
turned. -/
def strolling : List Request :=
  [.event (.keyDown (KeyMap.keyOf 'w')), .frame, .event (.keyDown overlayKey),
    .event (.keyUp (KeyMap.keyOf 'w')), .softReset, .event (.keyDown (KeyMap.keyOf 'w')),
    .event .other]

/-- There the key `5` is down and the overlay shown, and the key for a reset is the reset. -/
theorem events_reach_keys_strolling :
    let c₀ := empty (some 0) Computer.stillClock
    let past : List Request := [.loadBytes [0x12, 0x00] .standard]
    let c := (c₀.after past).after strolling
    c₀.isLoaded = false ∧ (c₀.after past).keypad = .allUp ∧
      (∀ request ∈ strolling, request.isDirect = false) ∧
      c.keypad.down.get 5 = true ∧ c.debug = true ∧
      c.handle (.keyDown resetKey) = c.softReset ∧
      ∃ pad on, c.handle (.keyUp resetKey) = .done ((c.setKeypad pad).setDebug on) := by
  intro c₀ past c
  have hidle : c₀.isLoaded = false := rfl
  have hup : (c₀.after past).keypad = .allUp := by decide +kernel
  have hdirect : ∀ request ∈ strolling, request.isDirect = false := by
    simp [strolling, Request.isDirect]
  have hloaded : c.isLoaded = true := by decide +kernel
  obtain ⟨hkeys, hdebug, hevents⟩ := events_reach_keys hidle past hup strolling hdirect
  obtain ⟨key, hkey, hdown⟩ := hkeys 5
  obtain rfl : KeyMap.keyOf 'w' = key := (hkey _).1 (by decide +kernel)
  refine ⟨hidle, hup, hdirect, hdown.2 (by decide +kernel), ?_, ((hevents _).1 ⟨rfl, hloaded⟩).1,
    (hevents _).2 fun h ↦ nomatch h.1⟩
  exact hdebug.trans (by decide +kernel)

end Console

end ChipEight
