import ChipEight.Files.Directory
import Mathlib.Data.List.Basic

/-!
# Writing a file

Whether a file can be written hardly depends on what is written: **a name that takes anything but
nothing takes everything** (`writable_of_write`), and only the full device takes nothing alone. What
was written is read back under the same name, unless the name is that of the null device
(`read_of_write`).

The second rests on a write not being in its own way. It changes what stands at one place, at which
there was no folder, so every name that could be followed is followed as before.
-/

namespace ChipEight.Directory

variable {d d' : Directory} {name : String} {bytes : List UInt8} {parts : List String}
  {place next : Place} {piece : String}

/-- The name takes whatever is written to it. -/
def Writable (d : Directory) (name : String) : Prop := ∀ bytes, ∃ d', d.write name bytes = .ok d'

/-! ### Where a write goes -/

/-- The directory behind a write that goes to a place. -/
def putAt (d : Directory) (bytes : List UInt8) : Place → Directory
  | .along parts => d.put parts (.file bytes)
  | _ => d

/-- A write can go to the place: there is room for a file, or the null device is. -/
def CanHold (d : Directory) (place : Place) : Prop :=
  place = .nullDevice ∨ ∃ parts, place = .along parts ∧ d.at? place ≠ some .folder

/-- The name leads a write to the place. -/
def LeadsTo (d : Directory) (name : String) (place : Place) : Prop :=
  endsInSlash name = false ∧ d.locate name = .ok place

theorem locate_eq {folder : Place} (h : d.approach name = .ok (folder, piece)) :
    d.locate name = d.enter folder piece := by
  rw [locate, h]
  rfl

theorem exists_approach_eq (h : d.locate name = .ok place) :
    ∃ folder piece, d.approach name = .ok (folder, piece) ∧ d.enter folder piece = .ok place := by
  rcases happroach : d.approach name with e | ⟨folder, piece⟩
  · rw [locate, happroach] at h
    exact nomatch h
  · exact ⟨folder, piece, rfl, (locate_eq happroach).symm.trans h⟩

/-- **A write that succeeds goes to a place that can hold a file**, unless nothing is written. -/
theorem exists_leadsTo (hne : bytes ≠ []) (h : d.write name bytes = .ok d') :
    ∃ place, d.LeadsTo name place ∧ d.CanHold place ∧ d' = d.putAt bytes place := by
  rw [write] at h
  rcases happroach : d.approach name with e | ⟨folder, piece⟩
  · rw [happroach] at h
    exact nomatch h
  · rw [happroach] at h
    rcases hslash : endsInSlash name with - | -
    · rcases henter : d.enter folder piece with e | place
      · simp [hslash, henter, bind, Except.bind] at h
      · have hlocate : d.locate name = .ok place := (locate_eq happroach).trans henter
        refine ⟨place, ⟨hslash, hlocate⟩, ?_⟩
        simp only [hslash, henter, bind, Except.bind, Bool.false_eq_true, if_false] at h
        split at h
        · exact nomatch h
        · cases h
          exact ⟨.inr ⟨_, rfl, ‹_›⟩, rfl⟩
        · cases h
          exact ⟨.inl rfl, rfl⟩
        · rw [if_neg hne] at h
          exact nomatch h
        · exact nomatch h
    · simp [hslash, bind, Except.bind] at h

theorem write_of_leadsTo (h : d.LeadsTo name place) (hplace : d.CanHold place)
    (bytes : List UInt8) : d.write name bytes = .ok (d.putAt bytes place) := by
  obtain ⟨hslash, hlocate⟩ := h
  obtain ⟨folder, piece, happroach, henter⟩ := exists_approach_eq hlocate
  rw [write, happroach]
  simp only [hslash, henter, bind, Except.bind, Bool.false_eq_true, if_false]
  rcases hplace with rfl | ⟨parts, rfl, hfolder⟩
  · rfl
  · rcases hat : d.at? (.along parts) with - | old | -
    · rfl
    · rfl
    · exact absurd hat hfolder

/-- **What takes something takes everything.** -/
theorem writable_of_write (hne : bytes ≠ []) (h : d.write name bytes = .ok d') :
    d.Writable name := by
  obtain ⟨place, hleads, hplace, -⟩ := exists_leadsTo hne h
  exact fun bytes ↦ ⟨_, write_of_leadsTo hleads hplace bytes⟩

/-! ### What is read back -/

theorem at?_put_self (h : isAscent parts = false) (entry : Entry) :
    (d.put parts entry).at? (.along parts) = some entry := by
  simp [at?, put, h]

theorem at?_put_of_ne (h : place ≠ .along parts) (entry : Entry) :
    (d.put parts entry).at? place = d.at? place := by
  cases place with
  | along others =>
    have hne : parts ≠ others := fun heq ↦ h (by rw [heq])
    have hfind : (d.entries.filter fun old ↦ old.1 != parts).find? (fun e ↦ e.1 == others) =
        d.entries.find? fun e ↦ e.1 == others := by
      rw [List.find?_filter]
      congr 1
      funext e
      rcases hkey : e.1 == others with - | -
      · simp
      · rw [eq_of_beq hkey]
        simp [Ne.symm hne]
    simp only [at?, put, List.find?_cons, beq_false_of_ne hne, hfind]
  | _ => rfl

/-- **A write is not in its own way**: what can be entered before it can be entered behind it. -/
theorem enter_put (hfolder : d.at? (.along parts) ≠ some .folder) (entry : Entry)
    (h : d.enter place piece = .ok next) : (d.put parts entry).enter place piece = .ok next := by
  have hne : place ≠ .along parts := by
    rintro rfl
    rw [enter] at h
    rcases hat : d.at? (.along parts) with - | old | -
    · rw [hat] at h
      exact nomatch h
    · rw [hat] at h
      exact nomatch h
    · exact hfolder hat
  rw [enter, at?_put_of_ne hne]
  exact h

theorem follow_put (hfolder : d.at? (.along parts) ≠ some .folder) (entry : Entry)
    {pieces : List String} (h : d.follow place pieces = .ok next) :
    (d.put parts entry).follow place pieces = .ok next := by
  induction pieces generalizing place with
  | nil => exact h
  | cons piece rest ih =>
    rw [follow] at h ⊢
    rcases henter : d.enter place piece with e | found
    · rw [henter] at h
      cases h
    · rw [henter] at h
      rw [enter_put hfolder entry henter]
      exact ih h

theorem locate_put (hfolder : d.at? (.along parts) ≠ some .folder) (entry : Entry)
    (h : d.locate name = .ok place) : (d.put parts entry).locate name = .ok place := by
  obtain ⟨folder, piece, happroach, henter⟩ := exists_approach_eq h
  have happroach' : (d.put parts entry).approach name = .ok (folder, piece) := by
    rw [approach] at happroach ⊢
    split at happroach
    · exact nomatch happroach
    · split at happroach
      · exact nomatch happroach
      · split at happroach
        · exact nomatch happroach
        · rw [if_neg ‹_›, if_neg ‹_›, if_neg ‹_›]
          simp only [bind, Except.bind] at happroach ⊢
          split at happroach
          · exact nomatch happroach
          · rw [follow_put hfolder entry ‹_›]
            exact happroach
  rw [locate_eq happroach']
  exact enter_put hfolder entry henter

/-- **What was written is read back**, unless it was written to the null device. -/
theorem read_of_write (hne : bytes ≠ []) (h : d.write name bytes = .ok d') :
    d'.read name = .ok bytes ∨ d.locate name = .ok .nullDevice := by
  obtain ⟨place, ⟨hslash, hlocate⟩, hplace, rfl⟩ := exists_leadsTo hne h
  rcases hplace with rfl | ⟨parts, rfl, hfolder⟩
  · exact .inr hlocate
  · refine .inl ?_
    have hplain : isAscent parts = false := by
      by_contra hascent
      exact hfolder (by rw [at?, if_pos (Bool.not_eq_false _ ▸ hascent)])
    rw [read, putAt, locate_put hfolder _ hlocate]
    simp only [bind, Except.bind, at?_put_self hplain, hslash]
    rfl

end ChipEight.Directory
