import ChipEight.Proofs.Timer.Course
import Mathlib.Algebra.Order.Field.Rat
import Mathlib.Tactic.Linarith
import Mathlib.Tactic.Ring

/-!
# How often a countdown ticks

Over exact times, a timer counts its current period from a moment that can be read off it
(`Timer.base`): from its last reset, or from **the update before the last tick**. A tick is due
as soon as a whole period lies between that moment and the last reading (`Timer.isDue_iff`), and it
moves the moment up to that reading, whatever was overdrawn (`Timer.base_update`).

So the moments of two ticks are at least a period apart, and if no two readings are further apart
than `g`, less than a period and `g`. `Paced` is the invariant that sums this up over a run, and
`ticks_rate` is what follows from it: **`k` ticks take at least `k` periods, and before `k + 1`
times a period and `g` have passed there is none missing**.
-/

namespace ChipEight

namespace Registers

/-- A countdown register after `k` ticks. One that stands below zero is left there. -/
def lowered (z : Int) (k : Nat) : Int := if 0 < z then max 0 (z - k) else z

theorem lowered_of_nonneg {z : Int} (h : 0 ≤ z) (k : Nat) : lowered z k = max 0 (z - k) := by
  rw [lowered]
  split <;> omega

theorem lowered_zero (z : Int) : lowered z 0 = z := by
  rw [lowered]
  split <;> omega

theorem lowered_succ (z : Int) (k : Nat) :
    (if 0 < lowered z k then lowered z k - 1 else lowered z k) = lowered z (k + 1) := by
  by_cases h : 0 < z
  · simp only [lowered, if_pos h]
    split <;> omega
  · simp only [lowered, if_neg h]

/-- Repeated ticks touch the two countdown registers alone. -/
theorem iterate_countDown (r : Registers) (k : Nat) :
    countDown^[k] r = { r with delay := lowered r.delay k, sound := lowered r.sound k } := by
  induction k with
  | zero =>
    rw [lowered_zero, lowered_zero]
    rfl
  | succ k ih =>
    rw [Function.iterate_succ_apply', ih, countDown]
    simp only [lowered_succ]

end Registers

namespace Course

variable {τ : Type} [TimeScale τ]

/-- **Each tick lowers the registers once**, and nothing else touches them. -/
theorem registers_through {s : Course τ} {r : Registers}
    (h : s.registers = Registers.countDown^[s.told.length] r) (readings : List τ) :
    (s.through readings).registers =
      Registers.countDown^[(s.through readings).told.length] r := by
  induction readings generalizing s with
  | nil => exact h
  | cons now readings ih =>
    refine ih ?_
    cases hdue : s.timer.isDue with
    | false =>
      rw [see_of_not_isDue hdue]
      exact h
    | true =>
      rw [see_of_isDue hdue, List.length_append, List.length_singleton,
        Function.iterate_succ_apply', ← h]

end Course

namespace Timer

variable {t : Timer Rat}

/-- The moment from which the timer counts its current period. -/
def base (t : Timer Rat) : Rat := t.lastReading - (t.period - t.rest)

theorem base_started (period now : Rat) : (started period now).base = now := by
  simp only [base, started]
  ring

theorem isDue_iff : t.isDue = true ↔ t.period ≤ t.lastReading - t.base := by
  show decide (t.rest ≤ 0) = true ↔ _
  rw [decide_eq_true_eq, base]
  constructor
  · intro h
    linarith
  · intro h
    linarith

/-- **A tick counts the next period from the reading before it**, not from where the last one was
used up. -/
theorem base_update (t : Timer Rat) (now : Rat) :
    (t.update now).base = if t.isDue then t.lastReading else t.base := by
  simp only [base, update]
  split
  · ring
  · ring

end Timer

/-! ### The pace of a run -/

/-- What holds of a course that began at the time `start` and whose readings are at most `g` apart.
`before` is the reading before the last one, by which the last update has judged. -/
structure Paced (start g before : Rat) (s : Course Rat) : Prop where
  base_le : s.timer.base ≤ before
  /-- The last update found the period unfinished, or began it. -/
  running : before - s.timer.base < s.timer.period
  /-- Every tick took a period at least. -/
  slow : s.told.length * s.timer.period ≤ s.timer.base - start
  /-- And at most a period and a gap. -/
  prompt : s.timer.base - start ≤ s.told.length * (s.timer.period + g)

namespace Paced

variable {start g before : Rat} {s : Course Rat}

theorem started {period : Rat} (hperiod : 0 < period) (registers : Registers) (now g : Rat) :
    Paced now g now ⟨registers, .started period now, []⟩ := by
  have hbase : (Timer.started period now).base = now := Timer.base_started period now
  refine ⟨?_, ?_, ?_, ?_⟩ <;> simp only [hbase, List.length_nil]
  · exact le_refl now
  · rw [sub_self]
    exact hperiod
  · simp
  · simp

/-- **One update keeps the pace**: a tick moves the base up to the last reading, which is a gap at
most behind the one before it. -/
theorem see (h : Paced start g before s) (hperiod : 0 < s.timer.period)
    (hmono : before ≤ s.timer.lastReading) (hgap : s.timer.lastReading - before ≤ g) (now : Rat) :
    Paced start g s.timer.lastReading (s.see now) := by
  obtain ⟨hle, hrunning, hslow, hprompt⟩ := h
  have hbase := Timer.base_update s.timer now
  cases hdue : s.timer.isDue with
  | true =>
    have hover : s.timer.period ≤ s.timer.lastReading - s.timer.base := Timer.isDue_iff.1 hdue
    rw [if_pos hdue] at hbase
    have hlength : ((s.see now).told.length : Rat) = s.told.length + 1 := by
      rw [Course.see_of_isDue hdue, List.length_append, List.length_singleton, Nat.cast_succ]
    refine ⟨?_, ?_, ?_, ?_⟩
    · exact le_of_eq hbase
    · show s.timer.lastReading - (s.timer.update now).base < s.timer.period
      rw [hbase]
      linarith
    · show _ * s.timer.period ≤ (s.timer.update now).base - start
      rw [hlength, hbase]
      linarith
    · show (s.timer.update now).base - start ≤ _ * (s.timer.period + g)
      rw [hlength, hbase]
      linarith
  | false =>
    have hunder : s.timer.lastReading - s.timer.base < s.timer.period := by
      by_contra hover
      rw [Timer.isDue_iff.2 (not_lt.1 hover)] at hdue
      exact nomatch hdue
    rw [hdue, if_neg Bool.false_ne_true] at hbase
    have htold : (s.see now).told = s.told := by rw [Course.see_of_not_isDue hdue]
    refine ⟨?_, ?_, ?_, ?_⟩
    · show (s.timer.update now).base ≤ _
      rw [hbase]
      linarith
    · show s.timer.lastReading - (s.timer.update now).base < s.timer.period
      rw [hbase]
      exact hunder
    · show _ * s.timer.period ≤ (s.timer.update now).base - start
      rw [htold, hbase]
      exact hslow
    · show (s.timer.update now).base - start ≤ _ * (s.timer.period + g)
      rw [htold, hbase]
      exact hprompt

/-- What the pace says of the time up to the reading before the last one. -/
theorem rate (h : Paced start g before s) (hg : 0 ≤ g) :
    s.told.length * s.timer.period ≤ before - start ∧
      before - start < (s.told.length + 1) * (s.timer.period + g) := by
  obtain ⟨hle, hrunning, hslow, hprompt⟩ := h
  constructor
  · linarith
  · linarith

end Paced

/-- The readings `t 1` to `t n`, and with them the times of `n` updates. -/
def readingsOf (t : Nat → Rat) (n : Nat) : List Rat := (List.range n).map fun k ↦ t (k + 1)

/-- **A whole run keeps the pace**, by induction on its updates: behind the last of them the reading
before it is `t (n - 1)`. -/
theorem paced_through {t : Nat → Rat} {g : Rat} {s : Course Rat} (hperiod : 0 < s.timer.period)
    (hlast : s.timer.lastReading = t 0) (hstart : Paced (t 0) g (t 0) s) {n : Nat} (hg : 0 ≤ g)
    (hmono : ∀ k < n, t k ≤ t (k + 1)) (hgap : ∀ k < n, t (k + 1) - t k ≤ g) :
    Paced (t 0) g (t (n - 1)) (s.through (readingsOf t n)) ∧
      (s.through (readingsOf t n)).timer.lastReading = t n := by
  induction n with
  | zero => exact ⟨hstart, hlast⟩
  | succ n ih =>
    obtain ⟨hpaced, hn⟩ := ih (fun k hk ↦ hmono k (by omega)) fun k hk ↦ hgap k (by omega)
    -- The two readings before this update are the same one if it is the first.
    have hbefore : t (n - 1) ≤ t n ∧ t n - t (n - 1) ≤ g := by
      cases n with
      | zero => exact ⟨le_refl _, by rw [Nat.zero_sub, sub_self]; exact hg⟩
      | succ m => exact ⟨hmono m (by omega), hgap m (by omega)⟩
    have hsee := hpaced.see (by rw [Course.period_through]; exact hperiod)
      (by rw [hn]; exact hbefore.1) (by rw [hn]; exact hbefore.2) (t (n + 1))
    rw [hn] at hsee
    rw [readingsOf, List.range_succ, List.map_append, Course.through_append]
    exact ⟨hsee, rfl⟩

/-! ### The rate of a countdown -/

namespace Countdown

variable {c : Countdown Rat}

/-- **How often a countdown ticks.** It is reset at the time `t 0` and updated `n` times, at `t 1`
to `t n`, none of them earlier than the one before it or later by more than `g`. All updates get to
their ends. The number `k` of ticks among them is bounded on both sides by the time up to the last
update but one; whoever listens hears something `k` times; and the countdown registers are lower by
`k`, but not below zero. -/
theorem ticks_rate {t : Nat → Rat} {n : Nat} {g : Rat} (hperiod : 0 < c.timer.period) (hn : 1 ≤ n)
    (hshows : c.clock.Shows (t 0 :: readingsOf t n)) (hmono : ∀ k < n, t k ≤ t (k + 1))
    (hgap : ∀ k < n, t (k + 1) - t k ≤ g) :
    ∃ c₀, c.reset = .ok c₀ ∧
      let run := updates n c₀
      let k := c₀.ticks n
      run.halt = none ∧
        (k * c.timer.period ≤ t (n - 1) - t 0 ∧
          t (n - 1) - t 0 < (k + 1) * (c.timer.period + g)) ∧
        (∀ sink, c.sink = some sink →
          ∃ heard : List Bool, heard.length = k ∧ run.signals = heard.map (Signal.sound sink)) ∧
        (c.sink = none → run.signals = []) ∧
        (0 ≤ c.registers.delay →
          run.state.registers.delay = max 0 (c.registers.delay - k)) ∧
        (0 ≤ c.registers.sound →
          run.state.registers.sound = max 0 (c.registers.sound - k)) := by
  obtain ⟨c₀, hreset, hticks, hrun⟩ := exists_reset_follows hshows
  have hlength : (readingsOf t n).length = n := by
    rw [readingsOf, List.length_map, List.length_range]
  rw [hlength] at hticks hrun
  have hg : 0 ≤ g := by
    have h0 := hmono 0 (by omega)
    have h1 := hgap 0 (by omega)
    linarith
  have hpaced := (paced_through (s := c.courseFrom (t 0)) hperiod rfl
    (Paced.started hperiod _ _ _) hg hmono hgap).1
  have hrate := hpaced.rate hg
  rw [← hticks, Course.period_through] at hrate
  have hregisters := Course.registers_through (s := c.courseFrom (t 0)) (r := c.registers) rfl
    (readingsOf t n)
  rw [← hticks, Registers.iterate_countDown] at hregisters
  refine ⟨c₀, hreset, ?_⟩
  rw [hrun]
  refine ⟨rfl, hrate, fun sink hsome ↦ ⟨_, hticks.symm, ?_⟩, fun hnone ↦ ?_, fun h0 ↦ ?_,
    fun h0 ↦ ?_⟩
  · rw [hsome]
    exact flatMap_tell_some sink _
  · rw [hnone]
    exact flatMap_tell_none _
  · show ((c.courseFrom (t 0)).through (readingsOf t n)).registers.delay = _
    rw [hregisters]
    exact Registers.lowered_of_nonneg h0 _
  · show ((c.courseFrom (t 0)).through (readingsOf t n)).registers.sound = _
    rw [hregisters]
    exact Registers.lowered_of_nonneg h0 _

/-- A countdown with a period of two, whose clock moves on by one at every reading. -/
def ticking : Countdown Rat where
  registers := { Registers.initial 0 with delay := 5, sound := 1 }
  timer := .started 2 0
  clock := .showing (0 :: readingsOf (fun k ↦ k) 6) 0
  sink := some 0

/-- Of six updates at the times 1 to 6 the third and the fifth are ticks: two of the periods that
have passed by the last but one. -/
theorem ticks_rate_ticking :
    ∃ c₀, 0 < ticking.timer.period ∧ ticking.reset = .ok c₀ ∧ c₀.ticks 6 = 2 ∧
      (2 * ticking.timer.period ≤ 5 ∧ 5 < (2 + 1) * (ticking.timer.period + 1)) ∧
      (updates 6 c₀).signals.length = 2 ∧
      (updates 6 c₀).state.registers.delay = 3 ∧ (updates 6 c₀).state.registers.sound = 0 := by
  have hperiod : 0 < ticking.timer.period := by decide +kernel
  obtain ⟨c₀, hreset, -, hrate, hheard, -, hdelay, hsound⟩ :=
    ticks_rate (c := ticking) (t := fun k ↦ k) (n := 6) (g := 1) hperiod (by decide)
      (Clock.shows_showing _ 0) (fun k _ ↦ by push_cast; linarith) fun k _ ↦ by push_cast; linarith
  have hticks : c₀.ticks 6 = 2 := by
    cases hreset
    decide +kernel
  obtain ⟨heard, hlength, hsignals⟩ := hheard 0 rfl
  rw [hticks] at hrate hdelay hsound hlength
  refine ⟨c₀, hperiod, hreset, hticks, by simpa using hrate, ?_, ?_, ?_⟩
  · rw [hsignals, List.length_map, hlength]
  · exact (hdelay (by decide)).trans (by decide)
  · exact (hsound (by decide)).trans (by decide)

end Countdown

end ChipEight
