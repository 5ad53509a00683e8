import ChipEight.Proofs.Timer.Course

/-!
# Looking at one moment more than once

How often a countdown is updated at one and the same time makes no difference later. **In between
it does**: a tick that is due comes at the second look, if there is one, and otherwise at the first
look at the next moment. But then both have begun the same period and told the same things
(`Course.see_see`), because the elapsed time is taken off behind the tick, and none has elapsed.

`same_behind_first_look` says it of two countdowns whose clocks show the same moments, each any
number of times in a row: **behind the first look at a moment** they stand alike. It needs of a
moment that no time passes between it and itself, which every finite number satisfies.
-/

namespace ChipEight

namespace Course

variable {τ : Type} [TimeScale τ] {s : Course τ} {u : τ}

/-- **A second look at the same moment is made up for by the next one.** -/
theorem see_see (hstill : ∀ x : τ, x - (u - u) = x)
    (hperiod : TimeScale.isSpent s.timer.period = false) (hlast : s.timer.lastReading = u) (v : τ) :
    (s.see u).see v = s.see v := by
  cases hdue : s.timer.isDue with
  | true =>
    -- The tick has come early, and the new period is still whole.
    have hearly : s.see u =
        ⟨s.registers.countDown, ⟨s.timer.period, u, s.timer.period⟩,
          s.told ++ [decide (0 < s.registers.countDown.sound)]⟩ := by
      rw [see_of_isDue hdue, hlast, hstill]
    have hwhole : (s.see u).timer.isDue = false := by
      rw [hearly]
      exact hperiod
    rw [see_of_not_isDue hwhole, hearly, see_of_isDue hdue, hlast]
  | false =>
    have hsame : s.see u = s := by
      rw [see_of_not_isDue hdue, hlast, hstill]
      obtain ⟨registers, ⟨period, lastReading, rest⟩, told⟩ := s
      cases hlast
      rfl
    rw [hsame]

/-- **And so are any number of further looks**, one after the other. -/
theorem through_replicate (hstill : ∀ x : τ, x - (u - u) = x)
    (hperiod : TimeScale.isSpent s.timer.period = false) (hlast : s.timer.lastReading = u)
    (n : Nat) (v : τ) : (s.through (List.replicate n u)).see v = s.see v := by
  induction n generalizing s with
  | zero => rfl
  | succ n ih =>
    rw [List.replicate_succ, through_cons, ih (s := s.see u) hperiod rfl,
      see_see hstill hperiod hlast]

end Course

/-- The moments `u 0` to `u (i - 1)`, the moment `u j` shown `a j` times in a row. -/
def schedule {τ : Type} (u : Nat → τ) (a : Nat → Nat) : Nat → List τ
  | 0 => []
  | i + 1 => schedule u a i ++ List.replicate (a i) (u i)

namespace Course

variable {τ : Type} [TimeScale τ] {s : Course τ} {u : Nat → τ} {a b : Nat → Nat}

/-- Behind the first look at the next moment, the further looks at this one are forgotten. -/
theorem through_schedule_succ (hstill : ∀ i (x : τ), x - (u i - u i) = x)
    (hperiod : TimeScale.isSpent s.timer.period = false) (ha : ∀ i, 1 ≤ a i) (i : Nat) :
    (s.through (schedule u a (i + 1))).see (u (i + 1)) =
      ((s.through (schedule u a i)).see (u i)).see (u (i + 1)) := by
  obtain ⟨m, hm⟩ : ∃ m, a i = m + 1 := ⟨a i - 1, by have := ha i; omega⟩
  have hperiod' : TimeScale.isSpent
      ((s.through (schedule u a i)).see (u i)).timer.period = false := by
    rw [see, Timer.period_update, period_through]
    exact hperiod
  rw [schedule, hm, List.replicate_succ, through_append, through_cons]
  exact through_replicate (hstill i) hperiod' rfl m _

/-- **Behind the first look at a moment the course is the same, however often the earlier moments
were looked at.** -/
theorem through_schedule_congr (hstill : ∀ i (x : τ), x - (u i - u i) = x)
    (hperiod : TimeScale.isSpent s.timer.period = false) (ha : ∀ i, 1 ≤ a i) (hb : ∀ i, 1 ≤ b i)
    (i : Nat) :
    (s.through (schedule u a i)).see (u i) = (s.through (schedule u b i)).see (u i) := by
  induction i with
  | zero => rfl
  | succ i ih =>
    rw [through_schedule_succ hstill hperiod ha, through_schedule_succ hstill hperiod hb, ih]

end Course

/-- No time passes between a finite moment and itself. -/
theorem Binary64.sub_sub_self {u : Binary64} (h : u.isFinite = true) (x : Binary64) :
    x - (u - u) = x := by
  rw [sub_self h, sub_zero]

namespace Countdown

/-- **How often a moment is looked at makes no difference behind the first look at the next.** A
countdown with a period above zero is reset, once under either clock, and then updated at the
moments `u 0`, `u 1`, …, which may come in any order. Under the first clock the moment `u j` is
shown `a j` times in a row, under the second `b j` times. Right behind the first update at `u i` the
two have the same registers, the same timer and the same calls of the sink behind them. -/
theorem same_behind_first_look {c : Countdown Binary64} {clock clock' : Clock Binary64}
    {start : Binary64} {u : Nat → Binary64} {a b : Nat → Nat}
    (hperiod : c.timer.period.isNonpos = false) (hfinite : ∀ i, (u i).isFinite = true)
    (ha : ∀ i, 1 ≤ a i) (hb : ∀ i, 1 ≤ b i) {i : Nat}
    (hshows : clock.Shows (start :: (schedule u a i ++ [u i])))
    (hshows' : clock'.Shows (start :: (schedule u b i ++ [u i]))) :
    ∃ c₁ c₂, { c with clock := clock }.reset = .ok c₁ ∧ { c with clock := clock' }.reset = .ok c₂ ∧
      let run := updates ((schedule u a i).length + 1) c₁
      let run' := updates ((schedule u b i).length + 1) c₂
      run.halt = none ∧ run'.halt = none ∧ run'.state.registers = run.state.registers ∧
        run'.state.timer = run.state.timer ∧ run'.signals = run.signals := by
  obtain ⟨c₁, hreset, -, hrun⟩ := exists_reset_follows (c := { c with clock := clock }) hshows
  obtain ⟨c₂, hreset', -, hrun'⟩ := exists_reset_follows (c := { c with clock := clock' }) hshows'
  -- Both have followed the same course.
  have hsame := Course.through_schedule_congr (s := c.courseFrom start)
    (fun i ↦ Binary64.sub_sub_self (hfinite i)) hperiod hb ha i
  rw [List.length_append, List.length_singleton, Course.through_append, Course.through_cons,
    Course.through_nil] at hrun hrun'
  refine ⟨c₁, c₂, hreset, hreset', ?_⟩
  rw [hrun, hrun']
  refine ⟨rfl, rfl, ?_, ?_, ?_⟩
  · exact congrArg Course.registers hsame
  · exact congrArg Course.timer hsame
  · exact congrArg (fun s ↦ s.told.flatMap (Signal.tell c.sink)) hsame

/-- A countdown that will be due at its first update after a period. -/
def waiting : Countdown Binary64 where
  registers := { Registers.initial 0 with delay := 3, sound := 2 }
  timer := .started Timer.standardPeriod 0
  clock := .showing [] 0
  sink := some 0

/-- A period after the reset, and twice that. -/
def periods (i : Nat) : Binary64 :=
  if i = 0 then Timer.standardPeriod else Binary64.ofRatio 33334 1000000

/-- The first moment is shown `n` times, and the second one once. -/
def showingTimes (n : Nat) : Clock Binary64 :=
  .showing (0 :: (schedule periods (fun _ ↦ n) 1 ++ [periods 1])) 0

/-- The tick comes at the third look at the first moment or at the first look at the second. -/
theorem same_behind_first_look_waiting :
    ∃ c₁ c₂, { waiting with clock := showingTimes 1 }.reset = .ok c₁ ∧
      { waiting with clock := showingTimes 3 }.reset = .ok c₂ ∧
      (updates 2 c₁).state.registers.delay = 2 ∧ (updates 2 c₁).signals = [.sound 0 true] ∧
      (updates 4 c₂).state.registers = (updates 2 c₁).state.registers ∧
      (updates 4 c₂).state.timer = (updates 2 c₁).state.timer ∧
      (updates 4 c₂).signals = (updates 2 c₁).signals := by
  have hfinite : ∀ i, (periods i).isFinite = true := by
    intro i
    rw [periods]
    split
    · decide +kernel
    · decide +kernel
  obtain ⟨c₁, c₂, hreset, hreset', -, -, hregisters, htimer, hsignals⟩ :=
    same_behind_first_look (c := waiting) (i := 1) (by decide +kernel) hfinite
      (a := fun _ ↦ 1) (b := fun _ ↦ 3) (fun _ ↦ by decide) (fun _ ↦ by decide)
      (Clock.shows_showing _ 0) (Clock.shows_showing _ 0)
  refine ⟨c₁, c₂, hreset, hreset', ?_, ?_, hregisters, htimer, hsignals⟩
  · cases hreset
    decide +kernel
  · cases hreset
    decide +kernel

end Countdown

end ChipEight
