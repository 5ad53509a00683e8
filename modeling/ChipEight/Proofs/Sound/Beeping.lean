import ChipEight.Signal
import ChipEight.Sound.Beeper

/-!
# What a sound sink is told

Of the signals that a machine sends, a sink sees those that name it (`heard`), and a beeper that is
told a list of them **ends as the last one says** (`Beeper.beeping_setAll`). The calls it makes of
the host are the changes alone, so they alternate, whatever it is told (`Beeper.alternates_setAll`).
-/

namespace ChipEight

/-! ### Hearing -/

namespace Signal

/-- What the signal says to a sink, if it is meant for that sink. -/
def toward? (sink : Sink) : Signal → Option Bool
  | sound s on => if s = sink then some on else none
  | notice _ => none

end Signal

/-- Nothing among the signals is for a sink. -/
def Silent (signals : List Signal) : Prop := ∀ signal ∈ signals, signal.sound? = none

theorem Silent.nil : Silent [] := fun _ h ↦ nomatch h

/-- Notices are not for sinks. -/
theorem Silent.notice (n : Notice) : Silent [.notice n] := List.forall_mem_cons.2 ⟨rfl, Silent.nil⟩

theorem Silent.append {l l' : List Signal} (h : Silent l) (h' : Silent l') : Silent (l ++ l') :=
  List.forall_mem_append.2 ⟨h, h'⟩

/-- Whatever is for a sink among the signals is for this one, if there is one at all. -/
def OnlyTo (sink : Option Sink) (signals : List Signal) : Prop :=
  ∀ s on, .sound s on ∈ signals → sink = some s

section

variable {sink : Option Sink}

theorem Silent.onlyTo {l : List Signal} (h : Silent l) : OnlyTo sink l :=
  fun _ _ hmem ↦ nomatch h _ hmem

theorem OnlyTo.append {l l' : List Signal} (h : OnlyTo sink l) (h' : OnlyTo sink l') :
    OnlyTo sink (l ++ l') :=
  fun s on hmem ↦ (List.mem_append.1 hmem).elim (h s on) (h' s on)

theorem onlyTo_tell (sink : Option Sink) (on : Bool) : OnlyTo sink (Signal.tell sink on) := by
  intro s on' hmem
  rcases sink with - | s'
  · exact absurd hmem List.not_mem_nil
  · cases List.mem_singleton.1 hmem
    rfl

end

/-- What a sink is told by a list of signals. -/
def heard (sink : Sink) (signals : List Signal) : List Bool :=
  signals.filterMap (Signal.toward? sink)

section

variable (sink : Sink)

@[simp] theorem heard_append (l l' : List Signal) :
    heard sink (l ++ l') = heard sink l ++ heard sink l' :=
  List.filterMap_append

@[simp] theorem heard_notice (n : Notice) (l : List Signal) :
    heard sink (.notice n :: l) = heard sink l := rfl

@[simp] theorem heard_tell (on : Bool) : heard sink (Signal.tell (some sink) on) = [on] := by
  simp [heard, Signal.tell, Signal.toward?]

theorem heard_of_silent {l : List Signal} (h : Silent l) : heard sink l = [] := by
  refine List.filterMap_eq_nil_iff.2 fun signal hsignal ↦ ?_
  rcases signal with ⟨s, on⟩ | n
  · exact nomatch h _ hsignal
  · rfl

end

/-! ### The beeper -/

namespace Beeper

/-- Tells the beeper one thing after another; the calls are those that it makes on the way. -/
def setAll (b : Beeper) : List Bool → Beeper × List HostCall
  | [] => (b, [])
  | on :: rest =>
    let (b', calls) := b.set on
    let (b'', later) := b'.setAll rest
    (b'', calls ++ later)

theorem setAll_cons (b : Beeper) (on : Bool) (rest : List Bool) :
    b.setAll (on :: rest) =
      (((b.set on).1.setAll rest).1, (b.set on).2 ++ ((b.set on).1.setAll rest).2) := rfl

/-- **The beeper is left as it was told last.** -/
theorem beeping_setAll (b : Beeper) (told : List Bool) :
    (b.setAll told).1.beeping = told.getLast?.getD b.beeping := by
  induction told generalizing b with
  | nil => rfl
  | cons on rest ih => rw [setAll_cons, ih, beeping_set, List.getLast?_cons, Option.getD_some]

theorem beeping_setAll_append (b : Beeper) (told told' : List Bool) :
    (b.setAll (told ++ told')).1.beeping = ((b.setAll told).1.setAll told').1.beeping := by
  simp only [beeping_setAll, List.getLast?_append]
  rcases told'.getLast? with - | on <;> rfl

/-- The calls are plays and stops by turns; the next one is to be a play if `on` says so. -/
def Alternates : Bool → List HostCall → Prop
  | _, [] => True
  | on, call :: rest => call = (if on then .play else .silence) ∧ Alternates (!on) rest

/-- **Its calls alternate**, and the first of them ends what it is doing at the beginning. -/
theorem alternates_setAll (b : Beeper) (told : List Bool) :
    Alternates (!b.beeping) (b.setAll told).2 := by
  induction told generalizing b with
  | nil => trivial
  | cons on rest ih =>
    have hlater := ih (b.set on).1
    rw [beeping_set] at hlater
    rw [setAll_cons]
    by_cases hsame : b.beeping = on
    · rw [set, if_pos hsame] at hlater ⊢
      rw [hsame]
      exact hlater
    · rw [set, if_neg hsame] at hlater ⊢
      have hother : (!b.beeping) = on := by
        rw [← Bool.eq_not.2 (Ne.symm hsame)]
      rw [hother]
      exact ⟨rfl, hlater⟩

end Beeper

end ChipEight
