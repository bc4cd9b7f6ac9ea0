/-
# Sprites drawn one after another

Drawing inverts pixels, so sprites that are drawn one after another are superposed: the last screen
depends on how often each sprite has been drawn where, and on nothing else. The order does not
matter, and a sprite that is drawn a second time in its place takes itself back, whatever has been
drawn in between. The invariant behind both is that each drawing inverts pixels that do not depend
on the screen.

This holds on screens of all sizes, and of sprites of all heights, also where a sprite meets a pixel
several times. Collisions are another matter, they do depend on the order.
-/

import Chip8.Proofs.Display.Pixels
import Mathlib.Data.Nat.Bits

namespace Chip8

/-- A sprite with the place where it is to be drawn. -/
structure Stamp where
  x : Int
  y : Int
  sprite : List UInt8
  deriving DecidableEq, Repr

namespace Display

variable {columns rows : Nat}

/-- The screen after a sprite has been drawn. A sprite that is refused leaves it as it was. -/
def stamp (d : Display columns rows) (s : Stamp) : Display columns rows :=
  match d.draw s.x s.y s.sprite with
  | .ok (drawn, _) => drawn
  | .error _ => d

/-- The screen after sprites have been drawn one after another. -/
def stampAll (d : Display columns rows) (stamps : List Stamp) : Display columns rows :=
  stamps.foldl stamp d

/-- A stamp inverts the pixel, if it is drawn at all. -/
def inkOfStamp (columns rows : Nat) (s : Stamp) (px py : Int) : Bool :=
  (obstacle? columns rows s.x s.sprite.length).isNone &&
    ink columns rows (spriteColumns s.x) s.y s.sprite px py

/-- Sprites that are drawn one after another are superposed. -/
structure Superposes (columns rows : Nat) : Prop where
  /-- a sprite is drawn from every column that is a word -/
  drawn : 0 < columns → 0 < rows → ∀ (d : Display columns rows) (s : Stamp),
    Word.holds s.x → ∃ collision, d.draw s.x s.y s.sprite = .ok (d.stamp s, collision)
  order : ∀ (d : Display columns rows) (stamps stamps' : List Stamp),
    stamps.Perm stamps' → d.stampAll stamps = d.stampAll stamps'
  /-- of two drawings of a sprite in one place, with any others around them, nothing stays -/
  cancel : ∀ (d : Display columns rows) (s : Stamp) (front middle back : List Stamp),
    d.stampAll (front ++ s :: middle ++ s :: back) = d.stampAll (front ++ middle ++ back)
  twice : ∀ (d : Display columns rows) (s : Stamp), (d.stamp s).stamp s = d

theorem stamp_of_obstacle?_eq_none (d : Display columns rows) {s : Stamp}
    (hfree : obstacle? columns rows s.x s.sprite.length = none) :
    d.stamp s = (d.drawRows (spriteColumns s.x) s.y s.sprite).1 := by
  rw [stamp, draw_eq_ok d _ hfree]

/-- A stamp inverts its pixels and no other. -/
theorem get_stamp (d : Display columns rows) (s : Stamp) (px py : Int) :
    (d.stamp s).get px py = xor (d.get px py) (inkOfStamp columns rows s px py) := by
  cases hfree : obstacle? columns rows s.x s.sprite.length with
  | some error => simp [stamp, draw, inkOfStamp, hfree]
  | none =>
    rw [stamp_of_obstacle?_eq_none d hfree, inkOfStamp, hfree, Option.isNone_none, Bool.true_and]
    obtain ⟨-, hempty | ⟨hcolumns, hrows⟩⟩ := obstacle?_eq_none_iff.1 hfree
    · -- without rows there is nothing to draw, whatever the size of the screen
      simp [List.eq_nil_of_length_eq_zero hempty, drawRows, ink]
    · exact get_drawRows_eq_ink hcolumns hrows d _ _ px py _

/-- Stamps that are drawn one after another invert the pixels that an odd number of them invert. -/
theorem get_stampAll (d : Display columns rows) (stamps : List Stamp) (px py : Int) :
    (d.stampAll stamps).get px py =
      xor (d.get px py) (stamps.countP fun s => inkOfStamp columns rows s px py).bodd := by
  induction stamps generalizing d with
  | nil => simp [stampAll]
  | cons s rest ih =>
    have hrest : (d.stampAll (s :: rest)).get px py = _ := ih (d.stamp s)
    rw [hrest, get_stamp, List.countP_cons, Nat.bodd_add]
    cases inkOfStamp columns rows s px py <;> simp

/-- Only the parities of the numbers of stamps on each pixel count. -/
theorem stampAll_congr (d : Display columns rows) {stamps stamps' : List Stamp}
    (hparity : ∀ p : Stamp → Bool, (stamps.countP p).bodd = (stamps'.countP p).bodd) :
    d.stampAll stamps = d.stampAll stamps' :=
  ext_get fun px py => by rw [get_stampAll, get_stampAll, hparity]

theorem stampAll_cancel (d : Display columns rows) (s : Stamp) (front middle back : List Stamp) :
    d.stampAll (front ++ s :: middle ++ s :: back) = d.stampAll (front ++ middle ++ back) := by
  refine d.stampAll_congr fun p => ?_
  simp only [List.countP_append, List.countP_cons, Nat.bodd_add]
  cases p s <;> simp

/-- Sprites are superposed on every screen. -/
theorem superposes (columns rows : Nat) : Superposes columns rows where
  drawn := by
    intro hcolumns hrows d s hword
    have hfree : obstacle? columns rows s.x s.sprite.length = none :=
      obstacle?_eq_none_iff.2 ⟨hword, .inr ⟨hcolumns, hrows⟩⟩
    refine ⟨(d.drawRows (spriteColumns s.x) s.y s.sprite).2, ?_⟩
    rw [draw_eq_ok d s.y hfree, stamp_of_obstacle?_eq_none d hfree]
  order d _ _ hperm := d.stampAll_congr fun p => by rw [hperm.countP_eq]
  cancel := stampAll_cancel
  twice d s := stampAll_cancel d s [] [] []

end Display

end Chip8
