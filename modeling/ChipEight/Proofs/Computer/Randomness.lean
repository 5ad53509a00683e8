import ChipEight.Proofs.Computer.Restart
import ChipEight.Proofs.Computer.SinceReset

/-!
# The random bytes of a program

The random source is seeded at every reset and is used up byte by byte: from its beginning it has
one stream of bytes (`RandomSource.stream`), and its state is told by how many of them were drawn.
**One instruction alone draws from it, and it draws one byte** (`state_step_of_drawsByte`,
`random_step_of_not_drawsByte`): no fault, no key wait and no other instruction does. So the source
stands behind as many bytes as there were such instructions since the last reset (`Drawn`), and a
program with a fixed seed sees the same bytes again behind every reset.

Every reset counts here, also one that is cut short by the clock, because the source is seeded
before the clock is read.
-/

namespace ChipEight

namespace RandomSource

/-- The source behind its first `n` bytes. -/
def drawn (r : RandomSource) : Nat → RandomSource
  | 0 => r
  | n + 1 => (r.drawn n).nextByte.2

/-- The byte that is drawn behind the first `n` ones. -/
def stream (r : RandomSource) (n : Nat) : UInt8 := (r.drawn n).nextByte.1

end RandomSource

namespace Computer

open Instruction

variable {c : Computer} {w : Nat}

/-! ### Drawing a byte -/

/-- The computer is about to carry out a random instruction. -/
def drawsByte (c : Computer) : Bool :=
  match c.fetch with
  | .error _ => false
  | .ok w => w / 0x1000 == 0xC

theorem drawsByte_iff : c.drawsByte = true ↔ ∃ w, c.fetch = .ok w ∧ w / 0x1000 = 0xC := by
  rw [drawsByte]
  rcases c.fetch with cause | w
  · simp
  · simp

/-- **A random instruction is always carried out**: it takes the next byte of the source, under its
mask, and the program goes on behind it. -/
theorem state_step_of_drawsByte (hfetch : c.fetch = .ok w) (hw : w / 0x1000 = 0xC) :
    c.step.state.random = c.random.nextByte.2 ∧
      (∀ x, c.step.state.v x =
        if regX w = x then c.random.nextByte.1 &&& UInt8.ofNat w else c.v x) ∧
      c.step.state.registers.pc = wrap16 (c.registers.pc + 2) ∧
      c.step.state.memory = c.memory := by
  have hstep : c.step.state = ((c.remembering w).doRandom (regX w) (UInt8.ofNat w)).next.timed :=
    state_step_of_performed hfetch (decode_of_standsFor (.random hw)) rfl
  obtain ⟨registers, timer, clock, hregisters, heq⟩ :=
    ((c.remembering w).doRandom (regX w) (UInt8.ofNat w)).next.exists_timed_eq
  -- What a tick changes of the registers is neither a byte register nor the program counter.
  obtain ⟨hv, hpc⟩ : registers.v =
      (c.registers.setV (regX w) (c.random.nextByte.1 &&& UInt8.ofNat w)).v ∧
        registers.pc = wrap16 (c.registers.pc + 2) := by
    rcases hregisters with rfl | rfl
    · exact ⟨rfl, rfl⟩
    · exact ⟨rfl, rfl⟩
  rw [hstep, heq]
  refine ⟨rfl, fun x ↦ ?_, hpc, rfl⟩
  rw [v, hv, Registers.v_setV]
  rfl

/-- **Every other step leaves the source alone**, whether it gets to its end or not. -/
theorem random_step_of_not_drawsByte (h : c.drawsByte = false) :
    c.step.state.random = c.random := by
  refine step_preserves_of_word (P := fun c' ↦ c'.random = c.random) ?_ ?_ ?_ rfl
  · intro c' opcode fault h'
    exact h'
  · intro w i hfetch hdecode h'
    have hother : ∀ x mask, i ≠ .random x mask := by
      rintro x mask rfl
      cases standsFor_of_decode (fetch_eq_ok hfetch).2.2 hdecode with
      | random hw => exact Bool.eq_false_iff.1 h (drawsByte_iff.2 ⟨w, hfetch, hw⟩)
    exact ((c.remembering w).random_perform w hother).trans h'
  · intro c' h'
    obtain ⟨registers, timer, clock, -, heq⟩ := c'.exists_timed_eq
    rw [heq]
    exact h'

/-! ### Histories -/

/-- The source was seeded as the computer was built to do it, and as many bytes were drawn from it
since as the steps on record have asked for. -/
structure Drawn (config : Config) (c : Computer) (begun : List Computer) : Prop where
  config_eq : c.config = config
  room : 80 ≤ c.memory.capacity
  random_eq : c.random = (RandomSource.seeded config.seed).drawn (begun.countP drawsByte)

theorem Drawn.step {config : Config} {begun : List Computer} (h : Drawn config c begun) :
    Drawn config c.step.state (c :: begun) := by
  have hsetup := c.sameSetup_step
  refine ⟨hsetup.config_eq.trans h.config_eq, hsetup.capacity_eq.symm ▸ h.room, ?_⟩
  rcases hdraws : c.drawsByte with - | -
  · rw [random_step_of_not_drawsByte hdraws, List.countP_cons_of_neg (Bool.eq_false_iff.1 hdraws),
      h.random_eq]
  · obtain ⟨w, hfetch, hw⟩ := drawsByte_iff.1 hdraws
    rw [(state_step_of_drawsByte hfetch hw).1, List.countP_cons_of_pos hdraws, h.random_eq,
      RandomSource.drawn]

theorem Drawn.reset {config : Config} {begun : List Computer} (h : Drawn config c begun) :
    Drawn config c.reset.state [] := by
  have hsetup := c.sameSetup_reset
  refine ⟨hsetup.config_eq.trans h.config_eq, hsetup.capacity_eq.symm ▸ h.room, ?_⟩
  rw [reset_eq h.room, ← h.config_eq]
  rcases c.clock.now with e | now
  · rfl
  · rfl

theorem drawn_after {booted : Computer} {config : Config} (h : Drawn config booted [])
    (requests : List Request) :
    Drawn config (booted.after requests) (booted.stepsSinceReset (fun _ ↦ true) requests) := by
  refine stepsSinceReset_invariant (P := Drawn config) ?_ ?_ ?_ ?_ ?_ requests h
  · intro c begun h
    exact h.step
  · intro c begun h
    exact h.reset
  · intro c begun keypad h
    exact ⟨h.config_eq, h.room, h.random_eq⟩
  · intro c begun clock h
    exact ⟨h.config_eq, h.room, h.random_eq⟩
  · intro c begun sink h
    exact ⟨h.config_eq, h.room, h.random_eq⟩

/-- **The random instructions of a program take the bytes of one stream, one each, and begin anew
with it at a reset.** A computer is switched on and used in any way. At any moment the source stands
behind as many bytes of the seed's stream as random instructions were begun since the last reset,
so the next one takes the next byte of the stream, under its mask, and nothing else takes any. -/
theorem random_follows_stream {config : Config} {memory : Memory} {screen : Screen}
    {keypad : Keypad} {sink : Option Sink} {clock : Clock Binary64}
    {booted : Outcome Halt Computer}
    (hboot : boot config memory screen keypad sink clock = .ok booted)
    (hdone : booted.halt = none) (requests : List Request) :
    let c := booted.state.after requests
    let count := (booted.state.stepsSinceReset (fun _ ↦ true) requests).countP drawsByte
    let source := RandomSource.seeded config.seed
    c.random = source.drawn count ∧
      (∀ w, c.fetch = .ok w → w / 0x1000 = 0xC →
        c.step.state.v (regX w) = source.stream count &&& UInt8.ofNat w ∧
          c.step.state.random = source.drawn (count + 1)) ∧
      (c.drawsByte = false → c.step.state.random = source.drawn count) := by
  intro c count source
  obtain ⟨hcap, clock', now, rfl⟩ := exists_eq_fresh_of_boot hboot hdone
  have hbegin : Drawn config (fresh config memory keypad sink clock' now) [] :=
    ⟨rfl, (Memory.capacity_load _ _ _).symm ▸ hcap, rfl⟩
  have hrandom : c.random = source.drawn count := (drawn_after hbegin requests).random_eq
  refine ⟨hrandom, fun w hfetch hw ↦ ?_, fun hother ↦ ?_⟩
  · obtain ⟨hsource, hv, -⟩ := state_step_of_drawsByte hfetch hw
    rw [hv, if_pos rfl, hsource, hrandom]
    exact ⟨rfl, rfl⟩
  · rw [random_step_of_not_drawsByte hother, hrandom]

/-- A memory that ends behind two random instructions, the second under a smaller mask. -/
def gambling : Memory :=
  ((Memory.blank 0x204).load 0x200 [0xC0, 0xFF, 0xC1, 0x0F]).1

/-- Behind a reset the program draws the first byte of the stream, and then the second one. -/
theorem random_follows_stream_gambling :
    let source := RandomSource.seeded (.fixed 0)
    ((starting gambling).after [.reset]).step.state.v 0 = source.stream 0 &&& 0xFF ∧
      ((starting gambling).after [.reset, .step]).step.state.v 1 = source.stream 1 &&& 0x0F := by
  intro source
  have hboot := boot_eq_starting (by decide : 80 ≤ gambling.capacity)
  obtain ⟨hfetch, hpc, hbehind⟩ :
      ((starting gambling).after [.reset]).fetch = .ok 0xC0FF ∧
        ((starting gambling).after [.reset]).registers.pc = 0x200 ∧
        (((starting gambling).after [.reset]).jump 0x202).fetch = .ok 0xC10F := by
    decide +kernel
  obtain ⟨hx, hmask, hx', hmask'⟩ : regX 0xC0FF = 0 ∧ UInt8.ofNat 0xC0FF = 0xFF ∧
      regX 0xC10F = 1 ∧ UInt8.ofNat 0xC10F = 0x0F := by
    decide
  -- A byte of the stream is too much to compute, so the first step is taken by what it does.
  obtain ⟨-, -, hgoes, hmemory⟩ := state_step_of_drawsByte hfetch (by decide)
  have hgoes' := hgoes.trans (congrArg (wrap16 <| · + 2) hpc)
  generalize starting gambling = s at *
  have hfetch' : (s.after ([.reset] ++ [.step])).fetch = .ok 0xC10F := by
    rw [after_append, after_step, ← hbehind]
    exact fetch_congr hgoes' hmemory
  have hcount₀ : (s.stepsSinceReset (fun _ ↦ true) [.reset]).countP drawsByte = 0 := rfl
  have hcount₁ : (s.stepsSinceReset (fun _ ↦ true) [.reset, .step]).countP drawsByte = 1 :=
    List.countP_cons_of_pos (drawsByte_iff.2 ⟨_, hfetch, by decide⟩)
  have hfirst := (random_follows_stream hboot rfl [.reset]).2.1 _ hfetch (by decide)
  have hsecond := (random_follows_stream hboot rfl [.reset, .step]).2.1 _ hfetch' (by decide)
  rw [hcount₀, hx, hmask] at hfirst
  rw [hcount₁, hx', hmask'] at hsecond
  exact ⟨hfirst.1, hsecond.1⟩

end Computer

end ChipEight
