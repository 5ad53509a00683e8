/-!
# The Mersenne Twister

The 32-bit generator MT19937: 624 words of state, handed out in blocks of 624 tempered words. It is
seeded from a key, a nonempty list of words, so that **seeding forgets everything drawn before**:
the state is a function of the key alone.

All arithmetic is on 32-bit words and wraps.
-/

namespace ChipEight

/-- The generator: its state, and how many words of the current block have been handed out. -/
structure Twister where
  state : Vector UInt32 624
  used : Nat
  deriving DecidableEq

namespace Twister

/-! ### Seeding -/

/-- The mixing step that both seeding passes share. -/
def scramble (x : UInt32) : UInt32 := x ^^^ (x >>> 30)

/-- The state that every key starts from. -/
def base : Vector UInt32 624 :=
  (List.range 623).foldl
    (fun v k ↦ v.setIfInBounds (k + 1)
      (1812433253 * scramble (v[k]?.getD 0) + UInt32.ofNat (k + 1)))
    ((Vector.replicate 624 0).setIfInBounds 0 19650218)

/-- Puts a word at position `1 … 623`. The last position is kept in position `0` as well, from where
the next round takes its predecessor. -/
def put (v : Vector UInt32 624) (i : Nat) (x : UInt32) : Vector UInt32 624 :=
  let v := v.setIfInBounds i x
  if i = 623 then v.setIfInBounds 0 x else v

/-- The first pass folds the key into the state, going round both as often as the longer of the two
needs. -/
def foldKey (key : Array UInt32) (v : Vector UInt32 624) : Vector UInt32 624 :=
  (List.range (max 624 key.size)).foldl
    (fun v r ↦
      -- Position 0 is never written in its turn: it is the copy that `put` keeps.
      let i := r % 623 + 1
      let j := r % key.size
      let x := (v[i]?.getD 0 ^^^ (scramble (v[i - 1]?.getD 0) * 1664525))
        + key.getD j 0 + UInt32.ofNat j
      put v i x)
    v

/-- The second pass goes on from position `start` and takes each position's number away. -/
def settle (start : Nat) (v : Vector UInt32 624) : Vector UInt32 624 :=
  (List.range 623).foldl
    (fun v r ↦
      let i := (start + r) % 623 + 1
      let x := (v[i]?.getD 0 ^^^ (scramble (v[i - 1]?.getD 0) * 1566083941)) - UInt32.ofNat i
      put v i x)
    v

/-- The generator for a key. -/
def ofKey (key : Array UInt32) : Twister where
  state := (settle (max 624 key.size) (foldKey key base)).setIfInBounds 0 0x80000000
  used := 624

/-- The words of a number, the least significant first. -/
def words (n : Nat) : List UInt32 :=
  if n < 0x100000000 then [UInt32.ofNat n]
  else UInt32.ofNat (n % 0x100000000) :: words (n / 0x100000000)

/-- The generator for a whole number, which is keyed by the words of its magnitude. -/
def ofSeed (seed : Int) : Twister := ofKey (words seed.natAbs).toArray

/-! ### Drawing -/

/-- The next block of state. -/
def regenerate (v : Vector UInt32 624) : Vector UInt32 624 :=
  (List.range 624).foldl
    (fun v k ↦
      let y := (v[k]?.getD 0 &&& 0x80000000) ||| (v[(k + 1) % 624]?.getD 0 &&& 0x7FFFFFFF)
      let twist : UInt32 := if y &&& 1 = 0 then 0 else 0x9908B0DF
      v.setIfInBounds k (v[(k + 397) % 624]?.getD 0 ^^^ (y >>> 1) ^^^ twist))
    v

/-- The scrambling that a word gets on its way out. -/
def temper (y : UInt32) : UInt32 :=
  let y := y ^^^ (y >>> 11)
  let y := y ^^^ ((y <<< 7) &&& 0x9D2C5680)
  let y := y ^^^ ((y <<< 15) &&& 0xEFC60000)
  y ^^^ (y >>> 18)

/-- The next word. -/
def next (t : Twister) : UInt32 × Twister :=
  let t := if t.used < 624 then t else ⟨regenerate t.state, 0⟩
  (temper (t.state[t.used]?.getD 0), { t with used := t.used + 1 })

end Twister

end ChipEight
