/-
# Sprites drawn by the emulator

The instruction that draws takes its sprite from memory, from the index on and around the end of
memory, and its place from two registers. Its sprites are lower than the screen, so what has been
shown about such sprites holds: each bit goes to a pixel of its own, and the flag tells whether a
pixel has been turned off.
-/

import Chip8.Proofs.Display.Drawing
import Chip8.Proofs.Emulator.Calls
import Chip8.Proofs.Emulator.Steps
import Chip8.Proofs.Memory.Blocks

namespace Chip8

open scoped Sizes

namespace Display

variable {columns rows : Nat}

/-- Drawing a sprite succeeds, draws it exactly and tells whether a pixel has been turned off. -/
def DrawsExactly (d : Display columns rows) (x y : Int) (sprite : List UInt8) : Prop :=
  ∃ after collision, d.draw x y sprite = .ok (after, collision) ∧ d.Drawn x y sprite after ∧
    (collision = true ↔ d.TurnsOff after)

theorem drawsExactly (hcolumns : 8 ≤ columns) (hrows : 0 < rows) (d : Display columns rows)
    {x : Int} (hlow : Word.holds x) (hhigh : Word.holds (x + 7)) (y : Int) {sprite : List UInt8}
    (hheight : sprite.length ≤ rows) : d.DrawsExactly x y sprite :=
  have hfree := obstacle?_eq_none_iff.2 ⟨hlow, .inr ⟨by omega, hrows⟩⟩
  ⟨_, _, d.draw_eq_ok y hfree, d.drawn_drawRows hcolumns hrows hlow hhigh y hheight⟩

end Display

namespace Emulator

variable {ρ : Type} [RandomSource ρ]

/-- The sprite of so many rows at the index. -/
def spriteAtIndex (e : Emulator ρ) (height : Nat) : List UInt8 :=
  (List.range height).map fun (r : Nat) =>
    e.machine.memory.read ((e.machine.registers.index + r) % 4096)

/-- The instruction at the program counter draws the sprite at the index. -/
structure DrawsSprite (e : Emulator ρ) (x y : Reg) (n : Nibble) : Prop where
  executed : e.step.1 = .executed
  drawn : e.machine.screen.Drawn (e.machine.registers.get x) (e.machine.registers.get y)
    (e.spriteAtIndex n) e.step.2.machine.screen
  flag : e.step.2.machine.registers.flag = 0 ∨ e.step.2.machine.registers.flag = 1
  flag_eq_one_iff : e.step.2.machine.registers.flag = 1 ↔
    e.machine.screen.TurnsOff e.step.2.machine.screen

omit [RandomSource ρ] in
theorem spriteAtIndex_eq (e : Emulator ρ) (height : Nat) :
    e.spriteAtIndex height = e.machine.memory.readBlock e.machine.registers.index height :=
  List.map_congr_left fun _ _ => e.machine.memory.read_congr (Int.emod_emod _ _)

/-- From registers in range drawing is always executed: a sprite can be drawn from every column that
is a byte. -/
theorem drawsSprite {e : Emulator ρ} (hrange : e.machine.registers.InRange)
    (hfree : e.machine.waiting = false) {x y : Reg} {n : Nibble}
    (hcurrent : e.machine.current = .drw x y n) : e.DrawsSprite x y n := by
  have hx := hrange.v x
  have hheight : (e.spriteAtIndex n).length ≤ 32 := by
    rw [spriteAtIndex, List.length_map, List.length_range]
    omega
  obtain ⟨hdrawn, hcollision⟩ := e.machine.screen.drawn_drawRows (by omega) (by omega)
    (Word.holds_of_le hx.1 (by omega)) (Word.holds_of_le (by omega) (by omega))
    (e.machine.registers.get y) hheight
  have hexecute := Machine.drawSprite_eq_ok hrange x y n
  rw [← spriteAtIndex_eq] at hexecute
  generalize e.machine.screen.drawRows _ _ (e.spriteAtIndex n) = result at *
  have hstep := step_of_current hfree hcurrent hexecute
  have hflag : e.step.2.machine.registers.flag = if result.2 then 1 else 0 := by
    rw [hstep]
    exact (Registers.get_advance _ _).trans ((Registers.get_setFlag _ _ _).trans (if_pos rfl))
  have hscreen : e.step.2.machine.screen = result.1 := by rw [hstep]
  exact
    { executed := by rw [hstep]
      drawn := by rw [hscreen]; exact hdrawn
      flag := by rw [hflag]; split <;> simp
      flag_eq_one_iff := by rw [hscreen, ← hcollision, hflag]; cases result.2 <;> simp }

/-- Sprites are drawn exactly, on every screen that is at least as wide and as high as they are, and
by the instruction that draws. -/
theorem drawsExactly_and_drawsSprite {columns rows : Nat} (hcolumns : 8 ≤ columns)
    (hrows : 1 ≤ rows) (d : Display columns rows) {x : Int} (hlow : Word.holds x)
    (hhigh : Word.holds (x + 7)) (y : Int) {sprite : List UInt8}
    (hheight : sprite.length ≤ rows) :
    d.DrawsExactly x y sprite ∧ ∀ e : Emulator ρ, e.machine.registers.InRange →
      e.machine.waiting = false → ∀ vx vy n, e.machine.current = .drw vx vy n →
        e.DrawsSprite vx vy n :=
  ⟨d.drawsExactly hcolumns hrows hlow hhigh y hheight, fun _ hrange hfree _ _ _ hcurrent =>
    drawsSprite hrange hfree hcurrent⟩

/-- A screen with one pixel on, under the last dot of the first row of a sprite that runs over two
edges. -/
def cornerScreen : Display 10 3 := (Display.blank 10 3).set 4 (-1) true

/-- A machine that draws a sprite over the lower right corner, with the index at the end of memory,
so that the second row is the first one of a glyph, and one pixel of that row is on. -/
def cornerSprite : Emulator Tape :=
  let e := initial { stackLimit := some 2 } (Tape.ofList [7])
  { e with machine := { e.machine with
      registers := { (e.machine.registers.set 0 62).set 1 30 with index := 0xFFFF }
      memory := e.machine.memory.load 0x200 [0xD0, 0x12]
      screen := e.machine.screen.set 0 31 true } }

theorem drawsExactly_and_drawsSprite_corners :
    cornerScreen.DrawsExactly 7 (-1) [0xFF, 0x81] ∧
      (cornerScreen.draw 7 (-1) [0xFF, 0x81]).map Prod.snd = .ok true ∧
      cornerSprite.machine.current = .drw 0 1 2 ∧ cornerSprite.DrawsSprite 0 1 2 ∧
      cornerSprite.step.2.machine.registers.flag = 1 :=
  have hrange : cornerSprite.machine.registers.InRange :=
    (((Registers.inRange_initial (some 2)).set 0 (by decide)).set 1 (by decide)).withIndex
      (by decide)
  have hcurrent : cornerSprite.machine.current = .drw 0 1 2 := by decide +kernel
  have hexact := drawsExactly_and_drawsSprite (by decide) (by decide) cornerScreen (by decide)
    (by decide) (-1) (by decide)
  ⟨hexact.1, by decide +kernel, hcurrent, hexact.2 cornerSprite hrange rfl 0 1 2 hcurrent,
    by decide +kernel⟩

end Emulator

end Chip8
