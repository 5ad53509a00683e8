import ChipEight.Proofs.Memory.Block
import Mathlib.Data.List.Induction

/-!
# Memory as what was stored last

A memory is used by **requests** with numbers of any size: an address is read or written, numbers
are loaded from an address on, and everything is cleared. Behind any list of them an address of the
memory's own holds the low eight bits of **the number that was stored there last** since the memory
was cleared (`read_after`); a request at any other address is a fault and changes nothing.

A load that does not fit stores what fits in front of the first address that is not there, and
faults at that address: the end of the memory, or the start itself if that is outside already
(`fault_load_eq`, `read_load`). Nothing here asks the memory to have any bytes at all.
-/

namespace ChipEight

namespace Memory

variable {m : Memory} {a : Int} {request : Request}

/-! ### Requests -/

/-- Something that is asked of a memory. -/
inductive Request where
  | read (address : Int)
  | write (address value : Int)
  | load (start : Int) (values : List Int)
  | clear

namespace Request

/-- The request is to clear the memory. -/
def isClear : Request → Bool
  | clear => true
  | _ => false

/-- The number that a request stores at an address, which is one of the memory's own. A load passes
through all addresses from its start up to there. -/
def stored? (a : Int) : Request → Option Int
  | write address value => if address = a then some value else none
  | load start values => if 0 ≤ start ∧ start ≤ a then values[(a - start).toNat]? else none
  | _ => none

end Request

/-- What a request does, and its answer: a number, nothing, or a fault. -/
def serve (m : Memory) : Request → Memory × Except Fault.Cause (Option Int)
  | .read address => (m, (m.read address).map fun byte ↦ some byte.toNat)
  | .write address value =>
    match m.write address value with
    | .ok m' => (m', .ok none)
    | .error cause => (m, .error cause)
  | .load start values =>
    let (loaded, count) := m.loadNumbers start values
    (loaded, count.map some)
  | .clear => (m.clear, .ok none)

/-- The memory behind a list of requests. -/
def after (m : Memory) (requests : List Request) : Memory :=
  requests.foldl (fun m request ↦ (m.serve request).1) m

/-- The number that was stored last at an address since the memory was last cleared. -/
def lastStored? (a : Int) (requests : List Request) : Option Int :=
  (requests.reverse.takeWhile (!·.isClear)).findSome? (Request.stored? a)

/-! ### Loads -/

/-- Bytes from `start` on are all there: there are none, or they lie in the memory. -/
def Fits (m : Memory) (start : Int) (n : Nat) : Prop := n = 0 ∨ 0 ≤ start ∧ start + n ≤ m.capacity

instance (m : Memory) (start : Int) (n : Nat) : Decidable (m.Fits start n) :=
  inferInstanceAs (Decidable (_ ∨ _))

/-- The first address from `start` on that is not there. -/
def firstOutside (m : Memory) (start : Int) : Int :=
  if start < 0 ∨ m.capacity ≤ start then start else m.capacity

theorem load_of_not_inBounds {start : Int} (h : ¬ m.InBounds start) {bytes : List UInt8}
    (hne : bytes ≠ []) : m.load start bytes = (m, some (m.faultAt start)) := by
  obtain ⟨byte, rest, rfl⟩ := List.exists_cons_of_ne_nil hne
  rw [load_cons, if_neg h]

/-- **A load faults exactly if it does not fit**, at the first address that is not there. -/
theorem fault_load_eq (m : Memory) (start : Int) (bytes : List UInt8) :
    (m.load start bytes).2 =
      if m.Fits start bytes.length then none else some (m.faultAt (m.firstOutside start)) := by
  by_cases hnil : bytes = []
  · rw [hnil, if_pos (.inl rfl)]
    rfl
  have hlength : bytes.length ≠ 0 := fun h ↦ hnil (List.length_eq_zero_iff.1 h)
  by_cases hin : m.InBounds start
  · obtain ⟨h0, hlt⟩ := hin
    have hfits : m.Fits start bytes.length ↔
        bytes.length = 0 ∨ start + bytes.length ≤ m.capacity :=
      or_congr_right (and_iff_right h0)
    have hinside : ¬ (start < 0 ∨ m.capacity ≤ start) := by omega
    rw [fault_load h0, blockFault, firstOutside, if_neg hinside,
      Int.max_eq_right (Int.le_of_lt hlt)]
    exact if_congr hfits.symm rfl rfl
  · have hfits : ¬ m.Fits start bytes.length := by
      rintro (h | ⟨h0, h⟩)
      · exact hlength h
      · exact hin ⟨h0, by omega⟩
    have hout : start < 0 ∨ m.capacity ≤ start := by
      by_contra hinside
      exact hin ⟨by omega, by omega⟩
    rw [load_of_not_inBounds hin hnil, if_neg hfits, firstOutside, if_pos hout]

/-- **What fits is stored**, whether the rest fits or not, and nothing else is. -/
theorem read_load (ha : m.InBounds a) (start : Int) (bytes : List UInt8) :
    (m.load start bytes).1.read a =
      (if 0 ≤ start ∧ start ≤ a then bytes[(a - start).toNat]? else none).elim (m.read a) .ok := by
  obtain ⟨ha0, hlt⟩ := ha
  by_cases hstart : 0 ≤ start ∧ start ≤ a
  · obtain ⟨h0, hle⟩ := hstart
    obtain ⟨k, rfl⟩ : ∃ k : Nat, a = start + k := ⟨(a - start).toNat, by omega⟩
    rw [if_pos ⟨h0, hle⟩, show (start + (k : Int) - start).toNat = k by omega]
    by_cases hk : k < bytes.length
    · rw [read_load_inside h0 hk hlt, List.getElem?_eq_getElem hk]
      rfl
    · rw [read_load_outside (.inr (.inl (by omega))), List.getElem?_eq_none (by omega)]
      rfl
  · rw [if_neg hstart, Option.elim_none]
    by_cases hnil : bytes = []
    · rw [hnil]
      rfl
    · by_cases hin : m.InBounds start
      · exact read_load_outside (.inl (by have := hin.1; omega))
      · rw [load_of_not_inBounds hin hnil]

theorem writeFrom_eq (m : Memory) (address : Int) (values : List Int) :
    m.writeFrom address values =
      ((m.load address (values.map UInt8.ofInt)).1,
        (m.load address (values.map UInt8.ofInt)).2.elim (.ok (address + values.length))
          .error) := by
  induction values generalizing m address with
  | nil =>
    rw [writeFrom, List.length_nil, Int.natCast_zero, Int.add_zero]
    rfl
  | cons value rest ih =>
    rw [writeFrom, List.map_cons, load_cons, write, store]
    by_cases hin : m.InBounds address
    · have hcount : address + 1 + (rest.length : Int) = address + ((rest.length + 1 : Nat) : Int) :=
        by omega
      rw [if_pos hin, if_pos hin, List.length_cons, ← hcount]
      exact ih _ _
    · rw [if_neg hin, if_neg hin]
      rfl

/-- **Numbers are loaded as their low eight bits**, and counted if there is no fault. -/
theorem loadNumbers_eq (m : Memory) (start : Int) (values : List Int) :
    m.loadNumbers start values =
      ((m.load start (values.map UInt8.ofInt)).1,
        (m.load start (values.map UInt8.ofInt)).2.elim (.ok (values.length : Int)) .error) := by
  rw [loadNumbers, writeFrom_eq]
  rcases (m.load start (values.map UInt8.ofInt)).2 with - | cause
  · have hcount : start + (values.length : Int) - start = values.length := by omega
    exact congrArg (fun count ↦ (_, Except.ok count)) hcount
  · rfl

/-! ### Single requests -/

theorem capacity_serve (m : Memory) (request : Request) :
    (m.serve request).1.capacity = m.capacity := by
  cases request with
  | read address => rfl
  | write address value =>
    rw [serve, write]
    rcases hstore : m.store address (UInt8.ofInt value) with cause | m'
    · rfl
    · exact capacity_store hstore
  | load start values =>
    rw [serve, loadNumbers_eq]
    exact capacity_load m start _
  | clear => rfl

/-- A request to write or to read an address that is not there is a fault **and nothing else**. -/
theorem serve_of_not_inBounds (h : ¬ m.InBounds a) :
    m.serve (.read a) = (m, .error (m.faultAt a)) ∧
      ∀ value, m.serve (.write a value) = (m, .error (m.faultAt a)) := by
  refine ⟨?_, fun value ↦ ?_⟩
  · rw [serve, read_eq_error h]
    rfl
  · rw [serve, write, store_eq_error h]

/-- And one that is there is written and read. -/
theorem serve_of_inBounds (h : m.InBounds a) (value : Int) :
    (m.serve (.write a value)).2 = .ok none := by
  rw [serve, write, store, if_pos h]

/-- **What an address holds behind a request**: what the request has stored there, if anything. -/
theorem read_serve (ha : m.InBounds a) (request : Request) :
    (m.serve request).1.read a =
      if request.isClear then .ok 0
      else (request.stored? a).elim (m.read a) fun value ↦ .ok (UInt8.ofInt value) := by
  cases request with
  | read address => rfl
  | write address value =>
    rw [if_neg (show Request.isClear (.write address value) ≠ true from Bool.false_ne_true),
      Request.stored?]
    by_cases hin : m.InBounds address
    · rw [serve, write, store, if_pos hin, read_set hin]
      by_cases heq : address = a
      · rw [if_pos heq, if_pos heq.symm]
        rfl
      · rw [if_neg heq, if_neg (Ne.symm heq)]
        rfl
    · have hne : address ≠ a := fun heq ↦ hin (heq ▸ ha)
      rw [(serve_of_not_inBounds hin).2, if_neg hne]
      rfl
  | load start values =>
    rw [serve, loadNumbers_eq,
      if_neg (show Request.isClear (.load start values) ≠ true from Bool.false_ne_true),
      Request.stored?]
    refine (read_load ha start _).trans ?_
    split
    · rw [List.getElem?_map]
      rcases values[(a - start).toNat]? with - | value
      · rfl
      · rfl
    · rfl
  | clear =>
    obtain ⟨ha0, hlt⟩ := ha
    exact (read_blank m.capacity a).trans (if_pos ⟨ha0, hlt⟩)

/-! ### Lists of requests -/

theorem after_concat (m : Memory) (requests : List Request) (request : Request) :
    m.after (requests ++ [request]) = ((m.after requests).serve request).1 := by
  rw [after, List.foldl_concat]
  rfl

theorem lastStored?_concat (a : Int) (requests : List Request) (request : Request) :
    lastStored? a (requests ++ [request]) =
      if request.isClear then none else (request.stored? a).or (lastStored? a requests) := by
  rw [lastStored?, List.reverse_concat, List.takeWhile_cons]
  rcases request.isClear with - | -
  · show List.findSome? _ (request :: _) = (request.stored? a).or (lastStored? a requests)
    rw [List.findSome?_cons, lastStored?]
    rcases request.stored? a with - | value <;> rfl
  · rfl

theorem capacity_after (m : Memory) (requests : List Request) :
    (m.after requests).capacity = m.capacity := by
  induction requests generalizing m with
  | nil => rfl
  | cons request rest ih => exact (ih _).trans (m.capacity_serve request)

/-- **An address holds what was stored there last**, by induction on the requests from the last one
on. -/
theorem read_after {capacity : Int} (h0 : 0 ≤ a) (hlt : a < capacity) (requests : List Request) :
    ((blank capacity).after requests).read a =
      .ok (UInt8.ofInt ((lastStored? a requests).getD 0)) := by
  induction requests using List.reverseRecOn with
  | nil => exact (read_blank capacity a).trans (if_pos ⟨h0, hlt⟩)
  | append_singleton requests request ih =>
    have ha : ((blank capacity).after requests).InBounds a :=
      ⟨h0, (capacity_after (blank capacity) requests).symm ▸ hlt⟩
    rw [after_concat, read_serve ha, lastStored?_concat]
    split
    · rfl
    · rcases request.stored? a with - | value
      · exact ih
      · rfl

theorem serve_read_eq {value : Int} (h : m.read a = .ok (UInt8.ofInt value)) :
    m.serve (.read a) = (m, .ok (some (value % 256))) := by
  rw [serve, h, ← toNat_lowByte]
  rfl

/-- **A load is counted or faults**, and which of the two is settled by where its addresses lie. -/
theorem serve_load_eq (m : Memory) (start : Int) (values : List Int) :
    m.serve (.load start values) =
      ((m.load start (values.map UInt8.ofInt)).1,
        if m.Fits start values.length then .ok (some (values.length : Int))
        else .error (m.faultAt (m.firstOutside start))) := by
  have hserve : m.serve (.load start values) =
      ((m.loadNumbers start values).1, (m.loadNumbers start values).2.map some) := rfl
  rw [hserve, loadNumbers_eq, fault_load_eq, List.length_map]
  by_cases hfits : m.Fits start values.length
  · rw [if_pos hfits, if_pos hfits]
    rfl
  · rw [if_neg hfits, if_neg hfits]
    rfl

/-- The numbers that fit are read back as their low eight bits. -/
theorem serve_read_load {start : Int} {values : List Int} {k : Nat} (hk : k < values.length)
    (h0 : 0 ≤ start) (hlt : start + k < m.capacity) :
    let loaded := (m.serve (.load start values)).1
    loaded.serve (.read (start + k)) = (loaded, .ok (some (values[k] % 256))) := by
  intro loaded
  refine serve_read_eq ?_
  have hk' : k < (values.map UInt8.ofInt).length := by rwa [List.length_map]
  have hread : (m.load start (values.map UInt8.ofInt)).1.read (start + k) = _ :=
    read_load_inside h0 hk' hlt
  rwa [List.getElem_map, ← congrArg Prod.fst (m.serve_load_eq start values)] at hread

/-- And nothing else is written. -/
theorem read_serve_load_outside {start : Int} {values : List Int}
    (h : start < 0 ∨ a < start ∨ start + values.length ≤ a) :
    (m.serve (.load start values)).1.read a = m.read a := by
  rw [serve_load_eq]
  rcases h with hneg | h
  · by_cases hnil : values = []
    · rw [hnil]
      rfl
    · rw [load_of_not_inBounds (fun hin ↦ absurd hin.1 (by omega))
        (fun hmap ↦ hnil (List.map_eq_nil_iff.1 hmap))]
  · refine read_load_outside ?_
    rw [List.length_map]
    omega

/-- **A memory is a map of what was stored last.** Whatever was asked of it before, it answers with
the low eight bits of the number that was stored last at an address since it was cleared, and with
zero if there was none; an address that it does not have is a fault, with the address and the
capacity, and then nothing is changed. A load stores all its numbers and answers how many they are,
exactly if there are none or all their addresses are there. Otherwise it faults, at its start if
that is not there and else at the capacity; it has stored the numbers whose addresses are there
and lie before that one, and has changed nothing else. -/
theorem refines_last_stored (capacity : Int) (requests : List Request) :
    let m := (blank capacity).after requests
    (∀ a, 0 ≤ a → a < capacity →
      m.serve (.read a) = (m, .ok (some ((lastStored? a requests).getD 0 % 256))) ∧
        ∀ value, (m.serve (.write a value)).2 = .ok none) ∧
      (∀ a, a < 0 ∨ capacity ≤ a →
        m.serve (.read a) = (m, .error (.outOfBounds a capacity)) ∧
          ∀ value, m.serve (.write a value) = (m, .error (.outOfBounds a capacity))) ∧
      ∀ start values,
        let fits := values = [] ∨ 0 ≤ start ∧ start + (values.length : Int) ≤ capacity
        let loaded := (m.serve (.load start values)).1
        let answer := (m.serve (.load start values)).2
        (answer = .ok (some (values.length : Int)) ∧
            (∀ k (hk : k < values.length),
              loaded.serve (.read (start + k)) = (loaded, .ok (some (values[k] % 256)))) ↔
          fits) ∧
        (¬ fits → answer =
          .error (.outOfBounds (if start < 0 ∨ capacity ≤ start then start else capacity)
            capacity)) ∧
        (∀ k (hk : k < values.length), 0 ≤ start → start + k < capacity →
          loaded.serve (.read (start + k)) = (loaded, .ok (some (values[k] % 256)))) ∧
        ∀ a, start < 0 ∨ a < start ∨ start + values.length ≤ a → loaded.read a = m.read a := by
  intro m
  have hcap : m.capacity = capacity := capacity_after _ requests
  refine ⟨fun a h0 hlt ↦ ⟨?_, ?_⟩, fun a hout ↦ ?_, fun start values ↦ ?_⟩
  · exact serve_read_eq (read_after h0 hlt requests)
  · exact serve_of_inBounds ⟨h0, hcap.symm ▸ hlt⟩
  · have hnot : ¬ m.InBounds a := fun ⟨h0, hlt⟩ ↦ by omega
    rw [← hcap]
    exact serve_of_not_inBounds hnot
  · intro fits loaded answer
    have hfits : m.Fits start values.length ↔ fits := by
      rw [Fits, hcap, List.length_eq_zero_iff]
    have hanswer : answer = _ := congrArg Prod.snd (m.serve_load_eq start values)
    have hstored : ∀ k (hk : k < values.length), 0 ≤ start → start + k < capacity →
        loaded.serve (.read (start + k)) = (loaded, .ok (some (values[k] % 256))) :=
      fun k hk h0 hlt ↦ serve_read_load hk h0 (hcap.symm ▸ hlt)
    refine ⟨⟨fun ⟨hcount, _⟩ ↦ ?_, fun h ↦ ⟨?_, fun k hk ↦ ?_⟩⟩, fun h ↦ ?_, hstored,
      fun a ↦ read_serve_load_outside⟩
    · by_contra hnot
      rw [hanswer, if_neg fun h ↦ hnot (hfits.1 h)] at hcount
      exact nomatch hcount
    · rw [hanswer, if_pos (hfits.2 h)]
    · rcases h with rfl | ⟨h0, hle⟩
      · exact absurd hk (Nat.not_lt_zero k)
      · exact hstored k hk h0 (by omega)
    · rw [hanswer, if_neg fun h' ↦ h (hfits.1 h'), faultAt, firstOutside, hcap]

/-- Two of three numbers fit, and the first of them replaces what was written before. -/
example :
    let m := ((blank 4).after [.write 2 (-1), .clear, .write 2 0x1FF])
    (m.serve (.load 2 [0x107, -2, 3])).2 = .error (.outOfBounds 4 4) ∧
      (m.serve (.load 2 [0x107, -2, 3])).1.cells = #[0, 0, 7, 0xFE] := by
  decide +kernel

end Memory

end ChipEight
