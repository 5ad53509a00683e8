import ChipEight.Proofs.Computer.Restart
import ChipEight.Proofs.Computer.Ticks
import ChipEight.Proofs.Computer.Unrolling

/-!
# The beeper follows the sound register

A beeper that listens to a computer from the beginning knows of the sound register what it was told
at the ticks of the timer, and that a reset ends all sound. So at any moment it beeps exactly if
**the register was running at the last tick since the last reset** (`beeping_sent`), whatever a
program has put there meanwhile, and however long a key wait or a fault keeps the next tick away.

`heard_countdown` is what it hears of one run of the register: behind the instruction that starts
it with `v`, the `k`-th tick says whether `k` is still below `v`.

Nothing is asked of the clock; it may run backwards or have no answer. Keys may be pressed and the
clock may be moved, but the sink stays the same. A reset that finds no answer from the clock is cut
short before it tells the sink anything, and so it does not count as one.
-/

namespace ChipEight.Computer

open Registers

variable {c : Computer} {sink : Sink} {request : Request}

/-! ### The ticks of a history -/

/-- What is known of the last tick behind a request, if `last` was known before it: how the tick has
left the sound register. A frame is none of these requests; its steps are. -/
def tickNoted (c : Computer) (last : Option Int) : Request → Option Int
  | .step => if c.Ticks then some c.step.state.registers.sound else last
  | .reset => if c.reset.halt = none then none else last
  | _ => last

/-- **The sound register at the last tick since the last reset**, if there was one. The history is
one of single steps. -/
def lastTick (c : Computer) (last : Option Int) : List Request → Option Int
  | [] => last
  | request :: rest => (c.serve request).state.lastTick (c.tickNoted last request) rest

/-- How many ticks a single request is. -/
def ticksOf (c : Computer) : Request → Nat
  | .step => if c.Ticks then 1 else 0
  | _ => 0

/-- How many of the steps of a history are ticks. -/
def tickCount (c : Computer) : List Request → Nat
  | [] => 0
  | request :: rest => c.ticksOf request + (c.serve request).state.tickCount rest

/-! ### Who listens -/

/-- The request is for a single thing, and not for another sink. -/
def Request.Single (request : Request) : Prop := request ≠ .frame ∧ ∀ s, request ≠ .setSink s

/-- Unrolling leaves single things. -/
theorem single_of_mem_unrolled {requests : List Request} (hsink : ∀ s, .setSink s ∉ requests)
    (h : request ∈ c.unrolled requests) : request.Single := by
  obtain ⟨hframe, rfl | hmem⟩ := eq_step_or_mem_of_mem_unrolled h
  · exact ⟨hframe, nofun⟩
  · exact ⟨hframe, fun s hs ↦ hsink s (hs ▸ hmem)⟩

/-- The computer tells the sink at its ticks and at its resets. -/
structure Tells (c : Computer) (sink : Sink) : Prop where
  sink_eq : c.sink = some sink
  timerSink_eq : c.timerSink = some sink

/-- Nobody is replaced but by a request for that. -/
theorem sameSetup_serve (c : Computer) (h : ∀ s, request ≠ .setSink s) :
    c.SameSetup (c.serve request).state := by
  have hpad : ∀ pad, c.SameSetup (c.withKeypad pad).state := by
    intro pad
    rcases pad with e | keypad
    · exact .refl c
    · exact ⟨rfl, rfl, rfl, rfl, rfl⟩
  cases request with
  | step => exact c.sameSetup_step
  | frame => exact c.sameSetup_steps _
  | reset => exact c.sameSetup_reset
  | press code => exact hpad _
  | release code => exact hpad _
  | moveClock d => exact ⟨rfl, rfl, rfl, rfl, rfl⟩
  | setSink s => exact absurd rfl (h s)

theorem Tells.serve (h : c.Tells sink) (hrequest : request.Single) :
    (c.serve request).state.Tells sink :=
  have hsame := c.sameSetup_serve hrequest.2
  ⟨hsame.sink_eq.trans h.sink_eq, hsame.timerSink_eq.trans h.timerSink_eq⟩

theorem Tells.after (h : c.Tells sink) {requests : List Request}
    (hrequests : ∀ request ∈ requests, request.Single) : (c.after requests).Tells sink := by
  induction requests generalizing c with
  | nil => exact h
  | cons request rest ih =>
    obtain ⟨hfirst, hrest⟩ := List.forall_mem_cons.1 hrequests
    exact ih (h.serve hfirst) hrest

/-! ### What is heard of single requests -/

/-- A computer that is only touched from outside sends nothing, and its sound register stays. -/
theorem quiet_serve (c : Computer) (hsingle : request.Single) (hstep : request ≠ .step)
    (hreset : request ≠ .reset) :
    (c.serve request).signals = [] ∧
      (c.serve request).state.registers.sound = c.registers.sound := by
  have hpad : ∀ pad, (c.withKeypad pad).signals = [] ∧
      (c.withKeypad pad).state.registers.sound = c.registers.sound := by
    intro pad
    rcases pad with e | keypad
    · exact ⟨rfl, rfl⟩
    · exact ⟨rfl, rfl⟩
  cases request with
  | step => exact absurd rfl hstep
  | frame => exact absurd rfl hsingle.1
  | reset => exact absurd rfl hreset
  | press code => exact hpad _
  | release code => exact hpad _
  | moveClock d => exact ⟨rfl, rfl⟩
  | setSink s => exact absurd rfl (hsingle.2 s)

/-- A reset ends the sound, unless it is cut short. -/
theorem heard_reset (h : c.sink = some sink) :
    heard sink c.reset.signals = if c.reset.halt = none then [false] else [] := by
  rcases hhalt : c.reset.halt with - | e
  · obtain ⟨-, now, -, heq⟩ := exists_reset_eq hhalt
    rw [heq, h]
    exact heard_tell sink false
  · obtain ⟨registers, memory, random, heq⟩ := exists_reset_eq_of_some hhalt
    rw [heq]
    rfl

/-! ### At any moment -/

/-- **One request keeps the beeper at what the last tick has said.** -/
theorem beeping_serve (h : c.Tells sink) (hsingle : request.Single) {b : Beeper}
    {last : Option Int} (hb : b.beeping = last.any (0 < ·)) :
    (b.setAll (heard sink (c.serve request).signals)).1.beeping =
      (c.tickNoted last request).any (0 < ·) := by
  rw [Beeper.beeping_setAll]
  by_cases hstep : request = .step
  · obtain ⟨found, hsounds, -⟩ := sounds_step h.timerSink_eq
    rw [hstep, serve, hsounds.heard_eq, tickNoted]
    split
    · rfl
    · exact hb
  by_cases hreset : request = .reset
  · rw [hreset, serve, heard_reset h.sink_eq, tickNoted]
    split
    · rfl
    · exact hb
  · have hnoted : c.tickNoted last request = last := by
      cases request with
      | step => exact absurd rfl hstep
      | reset => exact absurd rfl hreset
      | _ => rfl
    rw [(c.quiet_serve hsingle hstep hreset).1, hnoted]
    exact hb

/-- **At any moment of a history the beeper is at what the last tick has said.** -/
theorem beeping_sent (h : c.Tells sink) {b : Beeper} {last : Option Int}
    (hb : b.beeping = last.any (0 < ·)) {requests : List Request}
    (hsingle : ∀ request ∈ requests, request.Single) :
    (b.setAll (heard sink (c.sent requests))).1.beeping =
      (c.lastTick last requests).any (0 < ·) := by
  induction requests generalizing c b last with
  | nil => exact hb
  | cons request rest ih =>
    obtain ⟨hfirst, hrest⟩ := List.forall_mem_cons.1 hsingle
    rw [sent_cons, heard_append, Beeper.beeping_setAll_append]
    exact ih (h.serve hfirst) (beeping_serve h hfirst hb) hrest

/-! ### One run of the register -/

/-- The request lets a running sound go on: it is no reset, and starts no other one. -/
def KeepsSound (c : Computer) (request : Request) : Prop :=
  request ≠ .reset ∧ (request = .step → ∀ v, ¬ c.StartsSound v)

/-- What is heard when a register that stands at `z` lowered `k` times is lowered another `n` times:
after each time, whether it is still running. -/
def countedDown (z : Int) (k n : Nat) : List Bool :=
  (List.range n).map fun j ↦ decide (0 < lowered z (k + j + 1))

theorem countedDown_add (z : Int) (k n m : Nat) :
    countedDown z k (n + m) = countedDown z k n ++ countedDown z (k + n) m := by
  simp only [countedDown, List.range_add, List.map_append, List.map_map, Function.comp_def,
    Nat.add_assoc]

/-- A step lowers by a tick what its instruction has left in the register. -/
theorem countdown_of_sounds {z : Int} {k : Nat} (h : Sounds sink (lowered z k) c.Ticks c.step) :
    c.step.state.registers.sound = lowered z (k + c.ticksOf .step) ∧
      heard sink c.step.signals = countedDown z k (c.ticksOf .step) := by
  obtain ⟨hsound, hheard⟩ := h
  rw [lowered_lowered] at hsound
  rw [hsound] at hheard
  refine ⟨hsound, ?_⟩
  rw [hheard, ticksOf]
  split
  · rfl
  · rfl

/-- A request that keeps the sound lowers the register by its ticks, and says so. -/
theorem countdown_serve (h : c.Tells sink) (hsingle : request.Single)
    (hkeeps : c.KeepsSound request) {z : Int} {k : Nat} (hsound : c.registers.sound = lowered z k) :
    (c.serve request).state.registers.sound = lowered z (k + c.ticksOf request) ∧
      heard sink (c.serve request).signals = countedDown z k (c.ticksOf request) := by
  obtain ⟨hreset, hstarts⟩ := hkeeps
  by_cases hstep : request = .step
  · obtain ⟨found, hsounds, -, hfound⟩ := sounds_step h.timerSink_eq
    rw [hfound (hstarts hstep), hsound] at hsounds
    rw [hstep]
    exact countdown_of_sounds hsounds
  · obtain ⟨hsignals, hsame⟩ := c.quiet_serve hsingle hstep hreset
    have hticks : c.ticksOf request = 0 := by
      cases request with
      | step => exact absurd rfl hstep
      | _ => rfl
    rw [hticks, hsignals, hsame, hsound]
    exact ⟨rfl, rfl⟩

/-- **The ticks of a history count the register down**, and it is heard of each of them. -/
theorem heard_countdown (h : c.Tells sink) {requests : List Request}
    (hsingle : ∀ request ∈ requests, request.Single) (hkeeps : c.Throughout KeepsSound requests)
    {z : Int} {k : Nat} (hsound : c.registers.sound = lowered z k) :
    heard sink (c.sent requests) = countedDown z k (c.tickCount requests) := by
  induction requests generalizing c k with
  | nil => rfl
  | cons request rest ih =>
    obtain ⟨hfirst, hrest⟩ := List.forall_mem_cons.1 hsingle
    obtain ⟨hlowered, hheard⟩ := countdown_serve h hfirst hkeeps.1 hsound
    rw [sent_cons, heard_append, hheard, ih (h.serve hfirst) hrest hkeeps.2 hlowered, tickCount,
      countedDown_add]

/-- **From the step that starts the register with `v`, which may be a tick of it already, the `k`-th
tick says whether `k` is still below `v`.** -/
theorem heard_of_startsSound (h : c.Tells sink) {v : UInt8} (hstarts : c.StartsSound v)
    {requests : List Request} (hsingle : ∀ request ∈ requests, request.Single)
    (hkeeps : c.step.state.Throughout KeepsSound requests) :
    heard sink (c.sent (.step :: requests)) =
      (List.range (c.tickCount (.step :: requests))).map fun k ↦ decide (k + 1 < v.toNat) := by
  obtain ⟨found, hsounds, hfound, -⟩ := sounds_step h.timerSink_eq
  rw [hfound v hstarts, ← lowered_zero (v.toNat : Int)] at hsounds
  obtain ⟨hlowered, hheard⟩ := countdown_of_sounds hsounds
  have htells : (c.serve .step).state.Tells sink := h.serve ⟨nofun, nofun⟩
  have hrest : heard sink (c.step.state.sent requests) = countedDown v.toNat _ _ :=
    heard_countdown htells hsingle hkeeps hlowered
  have hbelow : ∀ k : Nat,
      decide (0 < lowered (v.toNat : Int) (0 + k + 1)) = decide (k + 1 < v.toNat) := by
    intro k
    rw [lowered_of_nonneg (Int.natCast_nonneg _), decide_eq_decide]
    omega
  rw [sent_cons, heard_append, serve, hheard, hrest, ← countedDown_add]
  exact List.map_congr_left fun k _ ↦ hbelow k

/-! ### From the beginning -/

/-- A computer is switched on with the sink told to be silent. -/
theorem tells_of_boot {config : Config} {memory : Memory} {screen : Screen} {keypad : Keypad}
    {clock : Clock Binary64} {booted : Outcome Halt Computer}
    (hboot : boot config memory screen keypad (some sink) clock = .ok booted)
    (hdone : booted.halt = none) :
    booted.state.Tells sink ∧ heard sink booted.signals = [false] := by
  obtain ⟨-, clock', now, rfl⟩ := exists_eq_fresh_of_boot hboot hdone
  exact ⟨⟨rfl, rfl⟩, heard_tell sink false⟩

/-- **Sound follows the sound register end to end.** A computer is switched on with one beeper that
listens to it, over any memory and with any clock, and is stepped, run for frames and reset; keys
and the clock may be moved as well. A frame is the steps of it that are begun, so let the history be
written with steps alone. Then at every moment of it, also within a frame, the beeper beeps exactly
if the sound register was running at the last tick since the last reset, and the calls that it has
made are plays and silences by turns, a play first. And wherever a step copies a register that holds
`v` to the sound register, the `k`-th tick from that step on says whether `k` is below `v`, until a
reset or until another sound is started. -/
theorem beeper_follows_sound {config : Config} {memory : Memory} {screen : Screen} {keypad : Keypad}
    {clock : Clock Binary64} {booted : Outcome Halt Computer}
    (hboot : boot config memory screen keypad (some sink) clock = .ok booted)
    (hdone : booted.halt = none) {requests : List Request} (hsink : ∀ s, .setSink s ∉ requests) :
    let c := booted.state
    let history := c.unrolled requests
    (.frame ∉ history ∧ c.after history = c.after requests ∧ c.sent history = c.sent requests) ∧
      (∀ past, past <+: history →
        let played := ({} : Beeper).setAll (heard sink (booted.signals ++ c.sent past))
        played.1.beeping = (c.lastTick none past).any (0 < ·) ∧ Beeper.Alternates true played.2) ∧
      ∀ past later v, past ++ .step :: later <+: history →
        (c.after past).StartsSound v → (c.after past).step.state.Throughout KeepsSound later →
          heard sink ((c.after past).sent (.step :: later)) =
            (List.range ((c.after past).tickCount (.step :: later))).map fun k ↦
              decide (k + 1 < v.toNat) := by
  intro c history
  obtain ⟨htells, hsilence⟩ := tells_of_boot hboot hdone
  have hsingle : ∀ request ∈ history, request.Single :=
    fun request ↦ single_of_mem_unrolled hsink
  refine ⟨⟨fun h ↦ (hsingle _ h).1 rfl, c.after_unrolled requests, c.sent_unrolled requests⟩,
    ?_, ?_⟩
  · intro past hpast
    have hpast' : ∀ request ∈ past, request.Single :=
      fun request h ↦ hsingle request (hpast.subset h)
    refine ⟨?_, Beeper.alternates_setAll {} _⟩
    have hbegin : (({} : Beeper).setAll (heard sink booted.signals)).1.beeping =
        (none : Option Int).any (0 < ·) := by
      rw [hsilence]
      rfl
    rw [heard_append, Beeper.beeping_setAll_append]
    exact beeping_sent htells hbegin hpast'
  · intro past later v hbegins hstarts hkeeps
    have hpast : ∀ request ∈ past, request.Single :=
      fun request h ↦ hsingle request (hbegins.subset (List.mem_append_left _ h))
    have hlater : ∀ request ∈ later, request.Single := fun request h ↦
      hsingle request (hbegins.subset (List.mem_append_right _ (List.mem_cons_of_mem _ h)))
    exact heard_of_startsSound (htells.after hpast) hstarts hlater hkeeps

/-- A clock that goes on by a fiftieth of a second at every reading. -/
def pacedClock : Clock Binary64 := ⟨fun reads _ ↦ .ok (.ofRatio reads 50), 0, 0⟩

/-- A computer with a program that starts the sound register with three, and then does nothing. -/
def sounding : Computer :=
  fresh {} ((Memory.blank 0x206).load 0x200 [0x60, 0x03, 0xF0, 0x18, 0x12, 0x04]).1 .allUp (some 0)
    pacedClock.tick.tick (.ofRatio 1 50)

/-- The second step starts the sound and is a tick of it already; the second tick behind it ends
it. -/
theorem beeper_follows_sound_sounding :
    heard 0 (sounding.step.state.sent [.step, .step, .step]) = [true, true, false] ∧
      (({} : Beeper).setAll (heard 0 (Signal.tell (some 0) false ++
        sounding.sent [.step, .step, .step]))).1.beeping = true := by
  have hboot : boot {} ((Memory.blank 0x206).load 0x200
      [0x60, 0x03, 0xF0, 0x18, 0x12, 0x04]).1 .standard .allUp (some 0) pacedClock =
        .ok ⟨sounding, Signal.tell (some 0) false, none⟩ :=
    boot_eq_fresh (by rw [Memory.capacity_load]; decide) rfl rfl .standard .allUp (some 0)
  obtain ⟨-, hbeeping, hcounting⟩ :=
    beeper_follows_sound hboot rfl (by simp : ∀ s, Request.setSink s ∉ [.step, .frame])
  -- The frame has eight steps, and all but the first step of the history are ticks.
  obtain ⟨hhistory, hfetch, hv, hjump, hjump', hcount, hlast⟩ :
      sounding.unrolled [.step, .frame] = List.replicate 9 .step ∧
        (sounding.after [.step]).fetch = .ok 0xF018 ∧ (sounding.after [.step]).v 0 = 3 ∧
        (sounding.after [.step]).step.state.fetch = .ok 0x1204 ∧
        (sounding.after [.step]).step.state.step.state.fetch = .ok 0x1204 ∧
        (sounding.after [.step]).tickCount [.step, .step, .step] = 3 ∧
        sounding.lastTick none [.step, .step, .step] = some 1 := by
    decide +kernel
  rw [hhistory] at hbeeping hcounting
  have hjumps : ∀ c : Computer, c.fetch = .ok 0x1204 → c.KeepsSound .step := fun c hc ↦
    ⟨nofun, fun _ v ↦ not_startsSound_of_decode hc fun x hx ↦ nomatch hx⟩
  have hheard := hcounting [.step] [.step, .step] 3 (by decide)
    ⟨0xF018, hfetch, by decide, by decide, hv⟩ ⟨hjumps _ hjump, hjumps _ hjump', trivial⟩
  have hbeeps := (hbeeping [.step, .step, .step] (by decide)).1
  dsimp only at hbeeps
  rw [hcount] at hheard
  rw [hlast] at hbeeps
  exact ⟨hheard, hbeeps⟩

end ChipEight.Computer
