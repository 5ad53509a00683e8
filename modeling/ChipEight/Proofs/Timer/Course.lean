import ChipEight.Timer
import Mathlib.Data.List.Induction

/-!
# The course of a countdown

What a countdown does depends on the readings of its clock and on nothing else of the clock. A
**course** is a countdown without the clock and the sink: the registers, the timer, and what was
told at the ticks. It is moved on by one reading at a time (`Course.see`), so statements about
countdowns can be made about lists of readings.

`updates_of_shows` is the bridge. As long as the clock shows the readings of a list, that many
updates get to their end, **and their state and their signals are those of the course**. Who
listens has no part in it: the sink hears what was told, once for each tick.
-/

namespace ChipEight

namespace Clock

variable {τ : Type} {c : Clock τ}

/-- The clock answers, and its next readings are these. -/
def Shows (c : Clock τ) (readings : List τ) : Prop :=
  ∀ k (hk : k < readings.length), c.reading (c.reads + k) c.offset = .ok readings[k]

/-- The clock after so many readings. -/
def after (c : Clock τ) (n : Nat) : Clock τ := { c with reads := c.reads + n }

theorem Shows.now {t : τ} {readings : List τ} (h : c.Shows (t :: readings)) : c.now = .ok t :=
  h 0 (Nat.zero_lt_succ _)

theorem Shows.tick {t : τ} {readings : List τ} (h : c.Shows (t :: readings)) :
    c.tick.Shows readings := by
  intro k hk
  have hnext := h (k + 1) (Nat.succ_lt_succ hk)
  rw [List.getElem_cons_succ, show c.reads + (k + 1) = c.reads + 1 + k by omega] at hnext
  exact hnext

theorem Shows.of_append {readings later : List τ} (h : c.Shows (readings ++ later)) :
    c.Shows readings := by
  intro k hk
  rw [h k (by rw [List.length_append]; omega), List.getElem_append_left hk]

/-- Behind the readings of a list comes the one that follows it. -/
theorem Shows.now_after {readings : List τ} {t : τ} (h : c.Shows (readings ++ [t])) :
    (c.after readings.length).now = .ok t := by
  have hlast := h readings.length (by simp)
  show c.reading (c.reads + readings.length) c.offset = .ok t
  rw [hlast, List.getElem_append_right (Nat.le_refl _), List.getElem_singleton]

/-- A clock that shows the readings of a list, and stands still behind them. -/
def showing (readings : List τ) (final : τ) : Clock τ where
  reading := fun reads _ ↦ .ok (readings.getD reads final)

theorem shows_showing (readings : List τ) (final : τ) :
    (showing readings final).Shows readings := by
  intro k hk
  show Except.ok (readings.getD (0 + k) final) = _
  rw [Nat.zero_add, List.getD_eq_getElem?_getD, List.getElem?_eq_getElem hk, Option.getD_some]

end Clock

/-- What has become of a countdown: its registers, its timer, and what was told at the ticks. -/
structure Course (τ : Type) where
  registers : Registers
  timer : Timer τ
  told : List Bool

namespace Course

variable {τ : Type} [TimeScale τ]

/-- The course behind one more reading. -/
def see (s : Course τ) (now : τ) : Course τ where
  registers := s.timer.applyTo s.registers
  timer := s.timer.update now
  told := s.told ++ (s.timer.announces s.registers).toList

/-- The course behind a list of readings. -/
def through (s : Course τ) (readings : List τ) : Course τ := readings.foldl see s

@[simp] theorem through_nil (s : Course τ) : s.through [] = s := rfl

@[simp] theorem through_cons (s : Course τ) (now : τ) (readings : List τ) :
    s.through (now :: readings) = (s.see now).through readings := rfl

@[simp] theorem through_append (s : Course τ) (readings later : List τ) :
    s.through (readings ++ later) = (s.through readings).through later :=
  List.foldl_append

@[simp] theorem period_through (s : Course τ) (readings : List τ) :
    (s.through readings).timer.period = s.timer.period := by
  induction readings generalizing s with
  | nil => rfl
  | cons now readings ih => rw [through_cons, ih]; rfl

/-- At a tick the registers are lowered, a new period begins and something is told. -/
theorem see_of_isDue {s : Course τ} (h : s.timer.isDue = true) (now : τ) :
    s.see now =
      ⟨s.registers.countDown,
        ⟨s.timer.period, now, s.timer.period - (now - s.timer.lastReading)⟩,
        s.told ++ [decide (0 < s.registers.countDown.sound)]⟩ := by
  simp only [see, Timer.applyTo, Timer.update, Timer.announces, if_pos h, Option.toList_some]

/-- Without a tick the time that has passed is taken off, and nothing else happens. -/
theorem see_of_not_isDue {s : Course τ} (h : s.timer.isDue = false) (now : τ) :
    s.see now =
      ⟨s.registers, ⟨s.timer.period, now, s.timer.rest - (now - s.timer.lastReading)⟩,
        s.told⟩ := by
  simp only [see, Timer.applyTo, Timer.update, Timer.announces, h, Bool.false_eq_true, if_false,
    Option.toList_none, List.append_nil]

end Course

namespace Countdown

variable {τ : Type} [TimeScale τ] {c : Countdown τ}

/-- The course that a countdown is on. -/
def course (c : Countdown τ) : Course τ := ⟨c.registers, c.timer, []⟩

/-- The course that a countdown begins with a reset at the given time. -/
def courseFrom (c : Countdown τ) (start : τ) : Course τ :=
  ⟨c.registers, .started c.timer.period start, []⟩

/-- The countdown with the registers and the timer of a course, its clock `n` readings on. -/
def along (c : Countdown τ) (s : Course τ) (n : Nat) : Countdown τ :=
  { c with registers := s.registers, timer := s.timer, clock := c.clock.after n }

theorem updates_add (m n : Nat) (c : Countdown τ) :
    updates (m + n) c = (updates m c).andThen (updates n) := by
  induction m generalizing c with
  | zero =>
    rw [Nat.zero_add]
    exact (Outcome.done_andThen c (updates n)).symm
  | succ m ih =>
    rw [Nat.succ_add, updates, updates, Outcome.andThen_assoc]
    congr 1
    funext c'
    exact ih c'

/-- A listener hears everything that is told. -/
theorem flatMap_tell_some (sink : Sink) (told : List Bool) :
    told.flatMap (Signal.tell (some sink)) = told.map (Signal.sound sink) :=
  (List.map_eq_flatMap).symm

theorem flatMap_tell_none (told : List Bool) : told.flatMap (Signal.tell none) = [] :=
  List.flatMap_eq_nil_iff.2 fun _ _ ↦ rfl

theorem announcement_eq_flatMap (c : Countdown τ) :
    c.announcement = (c.timer.announces c.registers).toList.flatMap (Signal.tell c.sink) := by
  rw [announcement]
  cases c.timer.announces c.registers with
  | none => rfl
  | some on => rw [Option.toList_some, List.flatMap_singleton]

/-- One update along a course. -/
theorem update_along {s : Course τ} {n : Nat} {now : τ} (h : (c.clock.after n).now = .ok now) :
    (c.along s n).update =
      ⟨c.along (s.see now) (n + 1),
        (s.timer.announces s.registers).toList.flatMap (Signal.tell c.sink), none⟩ := by
  have hnow : (c.along s n).clock.now = .ok now := h
  simp only [update, hnow, announcement_eq_flatMap]
  rfl

/-- **As long as the clock answers, a countdown follows its course**, by induction on the readings
from behind: the last update finds the countdown where the earlier ones have left it. -/
theorem updates_of_shows {readings : List τ} (h : c.clock.Shows readings) :
    updates readings.length c =
      ⟨c.along (c.course.through readings) readings.length,
        (c.course.through readings).told.flatMap (Signal.tell c.sink), none⟩ := by
  induction readings using List.reverseRecOn with
  | nil => rfl
  | append_singleton readings now ih =>
    have hone : updates 1 = update (τ := τ) := funext fun c' ↦ Outcome.andThen_done _
    rw [List.length_append, List.length_singleton, updates_add, ih h.of_append,
      Outcome.andThen_of_none rfl, hone, update_along h.now_after]
    simp only [Course.through_append, Course.through_cons, Course.through_nil]
    rw [Course.see, List.flatMap_append]

/-- How many of the first `n` updates are ticks. -/
def ticks (c : Countdown τ) (n : Nat) : Nat :=
  (List.range n).countP fun k ↦ (updates k c).state.timer.isDue

/-- **Something is told at every tick, and at no other update.** -/
theorem length_told {readings : List τ} (h : c.clock.Shows readings) :
    (c.course.through readings).told.length = c.ticks readings.length := by
  induction readings using List.reverseRecOn with
  | nil => rfl
  | append_singleton readings now ih =>
    have hbefore := h.of_append
    rw [List.length_append, List.length_singleton, ticks, List.range_succ, List.countP_append,
      ← ticks, ← ih hbefore, Course.through_append, Course.through_cons, Course.through_nil,
      List.countP_singleton, updates_of_shows hbefore]
    show (Course.see _ now).told.length =
      _ + if (c.course.through readings).timer.isDue then 1 else 0
    cases hdue : (c.course.through readings).timer.isDue with
    | true => rw [Course.see_of_isDue hdue, List.length_append]; rfl
    | false => rw [Course.see_of_not_isDue hdue]; rfl

/-- **A countdown that is reset follows the course that it begins then.** -/
theorem exists_reset_follows {start : τ} {readings : List τ}
    (h : c.clock.Shows (start :: readings)) :
    ∃ c₀, c.reset = .ok c₀ ∧
      c₀.ticks readings.length = ((c.courseFrom start).through readings).told.length ∧
      updates readings.length c₀ =
        ⟨c₀.along ((c.courseFrom start).through readings) readings.length,
          ((c.courseFrom start).through readings).told.flatMap (Signal.tell c.sink), none⟩ := by
  let c₀ : Countdown τ := { c with timer := c.timer.reset start, clock := c.clock.tick }
  have hreset : c.reset = .ok c₀ := by
    rw [reset, h.now]
    rfl
  exact ⟨c₀, hreset, (length_told (c := c₀) h.tick).symm, updates_of_shows (c := c₀) h.tick⟩

end Countdown

end ChipEight
