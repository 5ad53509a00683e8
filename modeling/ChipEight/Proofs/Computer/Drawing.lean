import ChipEight.Proofs.Computer.Restart
import ChipEight.Proofs.Computer.Sides
import ChipEight.Proofs.Screen.Sprite

/-!
# Drawing a sprite

The drawing instruction turns over the pixels under the set bits of the sprite at `I`, and the flag
register tells whether there was a collision. `draw_is_xor` says this **without the order in which
it is done**, on any screen that has pixels: by the parity of the bits that land on a pixel, and by
what was lit before. Nothing else is touched.

Drawn once more at the same place the sprite is gone again. It is **not** always reported as a
collision then: what the first drawing has put out, the second finds dark (`not_collides_again`).
-/

namespace ChipEight.Computer

open Instruction Screen

variable {c : Computer} {w : Nat} {sprite : List UInt8}

/-- The bytes that a drawing of `n` rows reads are there, and make up the sprite. -/
structure HasSprite (c : Computer) (n : Nat) (sprite : List UInt8) : Prop where
  length_eq : sprite.length = n
  read_eq : ∀ k (hk : k < sprite.length),
    c.memory.read (wrap16 (c.registers.i + k)) = .ok sprite[k]

/-- **With its sprite in memory a drawing gets to its end**: the screen is drawn on, the flag
register is set, and the program goes on behind the instruction. -/
theorem exists_execute_draw_eq (hword : w < 0x10000) (hfamily : w / 0x1000 = 0xD)
    (hscreen : c.screen.HasPixels) (hsprite : c.HasSprite (w % 16) sprite) :
    ∃ screen collision,
      c.screen.TurnsOver (spritePoints (c.v (regX w)).toNat (c.v (regY w)).toNat sprite) screen
        collision ∧
      c.execute w = .done (c.drawn screen collision).next := by
  obtain ⟨screen, collision, hturns, heq⟩ :=
    exists_doDraw_eq hscreen (regX w) (regY w) (lastDigit w)
  have hread : c.memory.readAll (blockAddresses c.registers.i (lastDigit w)) = (sprite, none) := by
    rw [show (lastDigit w).val = sprite.length from hsprite.length_eq.symm]
    exact Memory.readAll_blockAddresses_of_read hsprite.read_eq
  rw [hread] at hturns heq
  refine ⟨screen, collision, hturns, ?_⟩
  rw [execute_of_decode hword (decode_of_standsFor (.draw hfamily)), perform, heq]
  rfl

/-- A drawing changes no byte register but the flag register. -/
theorem v_drawn (c : Computer) (screen : Screen) (collision : Bool) (x : Reg) :
    (c.drawn screen collision).next.v x =
      if flagReg = x then if collision then 1 else 0 else c.v x :=
  Registers.v_setV _ _ _ _

/-- **The same sprite is there again behind a drawing.** -/
theorem HasSprite.drawn {n : Nat} (h : c.HasSprite n sprite) (screen : Screen)
    (collision : Bool) : (c.drawn screen collision).next.HasSprite n sprite :=
  ⟨h.length_eq, h.read_eq⟩

/-- **The same drawing once more** takes the first one back, if the flag register is no coordinate.
It collides where the first one has lit a pixel, or where bits share one. -/
theorem exists_execute_draw_again_eq {screen : Screen} {collision : Bool} (hword : w < 0x10000)
    (hfamily : w / 0x1000 = 0xD) (hscreen : c.screen.HasPixels)
    (hsprite : c.HasSprite (w % 16) sprite) (hx : regX w ≠ flagReg) (hy : regY w ≠ flagReg)
    (hturns : c.screen.TurnsOver
      (spritePoints (c.v (regX w)).toNat (c.v (regY w)).toNat sprite) screen collision) :
    ∃ collision',
      (collision' = true ↔ ∃ bit ∈ setBits sprite,
        c.screen.litUnder (c.v (regX w)).toNat (c.v (regY w)).toNat bit = false ∨
          c.screen.Shares (c.v (regX w)).toNat (c.v (regY w)).toNat sprite bit) ∧
      (c.drawn screen collision).next.execute w =
        .done ((c.drawn screen collision).next.drawn c.screen collision').next := by
  obtain ⟨screen', collision', hturns', heq⟩ :=
    exists_execute_draw_eq hword hfamily (hscreen.of_sides hturns.width_eq hturns.height_eq)
      (hsprite.drawn screen collision)
  -- The coordinates are still there, because the flag register is none of them.
  rw [v_drawn, v_drawn, if_neg hx.symm, if_neg hy.symm] at hturns'
  obtain ⟨rfl, hcollides⟩ := hturns.collision_iff_dark_of_twice hturns' hscreen
  exact ⟨collision', hcollides, heq⟩

/-- There is room on the screens of programs for every sprite. -/
theorem room_of_ofProgram (h : c.screen.OfProgram) (hsprite : c.HasSprite (w % 16) sprite) :
    8 ≤ c.screen.width ∧ (sprite.length : Int) ≤ c.screen.height := by
  obtain ⟨hwidth, hheight⟩ := h
  have hlength := hsprite.length_eq
  omega

/-- **The drawing instruction is an exclusive or, and its flag is exact.** The coordinates are what
the registers hold before the flag register is set, also where it is one of them. On any screen with
pixels, and with the sprite in memory,

* the drawing gets to its end;
* a pixel changes if an odd number of set bits lands on it, and the sides stay;
* with room for the sprite, as there is on the screens of programs, no two set bits share a pixel,
  and the flag register tells whether one of them has landed on a pixel that was lit;
* nothing else is touched, but that the program goes on behind the instruction;
* where the flag register is no coordinate, the same drawing once more brings the screen back, and
  the flag register tells whether a set bit had landed on a pixel that was **dark** before the first
  drawing, or shares its pixel with another one. -/
theorem draw_is_xor (hword : w < 0x10000) (hfamily : w / 0x1000 = 0xD)
    (hscreen : c.screen.HasPixels) (hsprite : c.HasSprite (w % 16) sprite) :
    let s := c.screen
    let left := (c.v (regX w)).toNat
    let top := (c.v (regY w)).toNat
    let once := (c.execute w).state
    let twice := (once.execute w).state
    (c.execute w).halt = none ∧
      (once.screen.width = s.width ∧ once.screen.height = s.height ∧
        ∀ p < s.columns, ∀ q < s.rows, once.screen.get p q = (s.get p q ^^
          decide (((setBits sprite).countP fun bit ↦ s.landing left top bit = (p, q)) % 2 = 1))) ∧
      (s.OfProgram → 8 ≤ s.width ∧ (sprite.length : Int) ≤ s.height) ∧
      (8 ≤ s.width → (sprite.length : Int) ≤ s.height →
        (∀ bit ∈ setBits sprite, ¬ s.Shares left top sprite bit) ∧
        once.v flagReg = if ∃ bit ∈ setBits sprite, s.litUnder left top bit = true then 1 else 0) ∧
      (once = { c with
          screen := once.screen
          registers := { c.registers with
            v := once.registers.v
            pc := wrap16 (c.registers.pc + 2) } } ∧
        ∀ x, x ≠ flagReg → once.v x = c.v x) ∧
      (regX w ≠ flagReg → regY w ≠ flagReg →
        (once.execute w).halt = none ∧ twice.screen = s ∧
          twice.v flagReg = if ∃ bit ∈ setBits sprite,
            s.litUnder left top bit = false ∨ s.Shares left top sprite bit then 1 else 0) := by
  intro s left top once twice
  obtain ⟨screen, collision, hturns, heq⟩ :=
    exists_execute_draw_eq hword hfamily hscreen hsprite
  have honce : once = (c.drawn screen collision).next := congrArg Outcome.state heq
  refine ⟨congrArg Outcome.halt heq, ⟨?_, ?_, ?_⟩, fun h ↦ room_of_ofProgram h hsprite,
    fun hw hh ↦ ⟨fun _ hbit ↦ not_shares hw hh hbit, ?_⟩, ⟨?_, fun x hx ↦ ?_⟩, fun hx hy ↦ ?_⟩
  · rw [honce]
    exact hturns.width_eq
  · rw [honce]
    exact hturns.height_eq
  · intro p hp q hq
    rw [honce]
    exact hturns.get_eq hscreen hp hq
  · rw [honce, v_drawn, if_pos rfl]
    exact if_congr (hturns.collision_iff_of_room hscreen hw hh) rfl rfl
  · rw [honce]
    rfl
  · rw [honce, v_drawn, if_neg hx.symm]
  · obtain ⟨collision', hcollides, heq'⟩ :=
      exists_execute_draw_again_eq hword hfamily hscreen hsprite hx hy hturns
    rw [← honce] at heq'
    have htwice : twice = (once.drawn c.screen collision').next := congrArg Outcome.state heq'
    refine ⟨congrArg Outcome.halt heq', ?_, ?_⟩
    · rw [htwice]
      rfl
    · rw [htwice, v_drawn, if_pos rfl]
      exact if_congr hcollides rfl rfl

/-- The digit zero, with which the font begins. -/
def zeroSprite : List UInt8 := [0xF0, 0x90, 0x90, 0x90, 0xF0]

/-- A computer that has nothing in its memory but the font, and `I` at its beginning. -/
def sketching : Computer := starting (.blank 80)

theorem hasSprite_sketching : sketching.HasSprite (0xD005 % 16) zeroSprite :=
  ⟨rfl, by decide +kernel⟩

/-- On a dark screen the first drawing does not collide, and the second one does. -/
theorem draw_is_xor_sketching :
    (sketching.execute (0xD005 : Nat)).state.v flagReg = 0 ∧
      ((sketching.execute (0xD005 : Nat)).state.execute (0xD005 : Nat)).state.screen =
        sketching.screen ∧
      ((sketching.execute (0xD005 : Nat)).state.execute (0xD005 : Nat)).state.v flagReg = 1 := by
  obtain ⟨-, -, hroom, honce, -, htwice⟩ :=
    draw_is_xor (by decide) (by decide) HasPixels.standard hasSprite_sketching
  obtain ⟨hwidth, hheight⟩ := hroom .standard
  obtain ⟨-, hback, hagain⟩ := htwice (by decide) (by decide)
  refine ⟨(honce hwidth hheight).2.trans (if_neg ?_), hback, hagain.trans (if_pos ?_)⟩
  · decide +kernel
  · decide +kernel

/-- **What is drawn twice is not always reported.** With the digit drawn already, two drawings more
put out its pixels and light them again. -/
theorem not_collides_again :
    ¬ ∀ (c : Computer) (w : Nat) (sprite : List UInt8), w < 0x10000 → w / 0x1000 = 0xD →
      c.screen.HasPixels → c.HasSprite (w % 16) sprite → regX w ≠ flagReg → regY w ≠ flagReg →
        (((c.execute w).state.execute w).state.v flagReg = 1 ↔ setBits sprite ≠ []) := by
  intro hcollides
  obtain ⟨screen, collision, hturns, heq⟩ := exists_execute_draw_eq (w := 0xD005) (by decide)
    (by decide) HasPixels.standard hasSprite_sketching
  have honce : (sketching.execute (0xD005 : Nat)).state =
      (sketching.drawn screen collision).next := congrArg Outcome.state heq
  have hflag : (((sketching.execute (0xD005 : Nat)).state.execute (0xD005 : Nat)).state.execute
      (0xD005 : Nat)).state.v flagReg = 0 := by
    decide +kernel
  rw [honce] at hflag
  have hagain := (hcollides _ 0xD005 zeroSprite (by decide) (by decide)
    (HasPixels.standard.of_sides hturns.width_eq hturns.height_eq)
    (hasSprite_sketching.drawn screen collision) (by decide) (by decide)).2 (by decide)
  exact absurd (hflag.symm.trans hagain) (by decide)

end ChipEight.Computer
