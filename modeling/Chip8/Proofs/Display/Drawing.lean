/-
# What drawing a sprite does

On a screen that is as wide as a sprite and at least as tall, no two dots of the sprite meet in a
pixel. So every bit of the sprite is found in a pixel of its own after drawing, a collision is a
pixel that has gone off, and the number of pixels that are on can be told from the number of dots:
every dot turns a pixel on or off.
-/

import Chip8.Proofs.Display.Pixels
import Mathlib.Algebra.BigOperators.Fin
import Mathlib.Data.Fintype.Fin
import Mathlib.Logic.Equiv.Fin.Basic

namespace Chip8

/-- Going around once from any start, a place is met at every distance below the size. -/
theorem sum_offset (size : Nat) (start : Int) (f : Nat → Nat) :
    ∑ place : Fin size, f (offset size start place.val) = ∑ k ∈ Finset.range size, f k := by
  have hself (place : Fin size) : (place.val : Int) % size = place.val :=
    Int.emod_eq_of_lt (by omega) (by omega)
  refine Finset.sum_bij (fun place _ => offset size start place.val) ?_ ?_ ?_ fun _ _ => rfl
  · intro place _
    exact Finset.mem_range.2 (offset_lt place.pos start place.val)
  · intro place _ other _ hoffset
    have hplace := add_offset_emod place.pos start place.val
    rw [hoffset, add_offset_emod place.pos, hself, hself] at hplace
    exact Fin.ext (by omega)
  · intro k hk
    have hk : k < size := Finset.mem_range.1 hk
    have hnonneg : 0 ≤ (start + k) % (size : Int) := Int.emod_nonneg _ (by omega)
    have hlt : (start + k) % (size : Int) < size := Int.emod_lt_of_pos _ (by omega)
    refine ⟨⟨((start + k) % size).toNat, by omega⟩, Finset.mem_univ _, ?_⟩
    refine (emod_eq_add_iff hk start _).1 ?_
    rw [Int.toNat_of_nonneg hnonneg, Int.emod_emod]

theorem count_map_range (f : Nat → Bool) (n : Nat) :
    ((List.range n).map f).count true = ∑ k ∈ Finset.range n, (f k).toNat := by
  induction n with
  | zero => rfl
  | succ n ih =>
    rw [List.range_succ, List.map_append, List.count_append, ih, Finset.sum_range_succ]
    cases hf : f n <;> simp [hf]

namespace Display

variable {columns rows : Nat}

/-- The number of dots of a sprite. -/
def dotCount (sprite : List UInt8) : Nat := (sprite.flatMap spriteBits).count true

/-- The number of pixels that are on before and off after. -/
def switchedOff (before after : Display columns rows) : Nat :=
  (Finset.univ.filter fun p : Fin columns × Fin rows =>
    before.get p.1.val p.2.val = true ∧ after.get p.1.val p.2.val = false).card

theorem get_eq_getElem (d : Display columns rows) (p : Fin columns × Fin rows) :
    d.get p.1.val p.2.val = d.pixels[finProdFinEquiv p] := by
  have hplace : place columns rows p.1.val p.2.val = finProdFinEquiv p := by
    have hx : (p.1.val : Int) % columns = p.1.val := Int.emod_eq_of_lt (by omega) (by omega)
    have hy : (p.2.val : Int) % rows = p.2.val := Int.emod_eq_of_lt (by omega) (by omega)
    rw [place, hx, hy, Int.toNat_natCast, Int.toNat_natCast, finProdFinEquiv_apply_val,
      Nat.mul_comm, Nat.add_comm]
  rw [get, hplace, Vector.getElem?_eq_getElem (finProdFinEquiv p).isLt]
  rfl

/-- The pixels that are on are counted one by one. -/
theorem lit_eq_sum (d : Display columns rows) :
    d.lit = ∑ p : Fin columns × Fin rows, (d.get p.1.val p.2.val).toNat := by
  let pixels : List.Vector Bool (columns * rows) := ⟨d.pixels.toList, d.pixels.length_toList⟩
  calc d.lit
      = (Finset.univ.filter fun k => pixels.get k = true).card :=
        (Fin.card_filter_univ_eq_vector_get_eq_count true pixels).symm
    _ = ∑ k : Fin (columns * rows), (d.pixels[k]).toNat := by
        rw [Finset.card_filter]
        refine Finset.sum_congr rfl fun k _ => ?_
        have hpixel : pixels.get k = d.pixels[k] := by simp [pixels, List.Vector.get]
        rw [hpixel]
        cases d.pixels[k] <;> rfl
    _ = ∑ p : Fin columns × Fin rows, (d.pixels[finProdFinEquiv p]).toNat :=
        (Equiv.sum_comp finProdFinEquiv fun k => (d.pixels[k]).toNat).symm
    _ = ∑ p : Fin columns × Fin rows, (d.get p.1.val p.2.val).toNat :=
        Finset.sum_congr rfl fun p _ => by rw [get_eq_getElem]

/-- On a row of the screen, a row of a sprite inks as many pixels as it has dots. -/
theorem sum_rowDot (hcolumns : 8 ≤ columns) (x : Int) (b : UInt8) :
    ∑ px : Fin columns, (rowDot columns x b px.val).toNat = (spriteBits b).count true := by
  have hsmall : Finset.range 8 ⊆ Finset.range columns := by simpa using hcolumns
  calc ∑ px : Fin columns, (rowDot columns x b px.val).toNat
      = ∑ k ∈ Finset.range columns, (decide (k < 8) && b.toNat.testBit (7 - k)).toNat :=
        sum_offset columns x fun k => (decide (k < 8) && b.toNat.testBit (7 - k)).toNat
    _ = ∑ k ∈ Finset.range 8, (decide (k < 8) && b.toNat.testBit (7 - k)).toNat := by
        refine (Finset.sum_subset hsmall fun k _ hk => ?_).symm
        simp [show ¬ k < 8 by simpa using hk]
    _ = ∑ k ∈ Finset.range 8, (b.toNat.testBit (7 - k)).toNat :=
        Finset.sum_congr rfl fun k hk => by rw [decide_eq_true (Finset.mem_range.1 hk)]; rfl
    _ = (spriteBits b).count true := (count_map_range _ 8).symm

/-- One row of the screen is the row at a coordinate. -/
theorem sum_onRow (hrows : 0 < rows) (y : Int) (on : Bool) :
    ∑ py : Fin rows, (decide ((py.val : Int) % rows = y % rows) && on).toNat = on.toNat := by
  have hrow (py : Fin rows) : (py.val : Int) % rows = y % rows ↔ offset rows y py.val = 0 := by
    simpa using emod_eq_add_iff (k := 0) hrows y py.val
  simp only [hrow]
  rw [sum_offset rows y fun k => (decide (k = 0) && on).toNat,
    Finset.sum_eq_single_of_mem 0 (Finset.mem_range.2 hrows) fun k _ hk => by simp [hk]]
  rfl

/-- A sprite that is no taller than the screen inks as many pixels as it has dots. -/
theorem sum_dots (hcolumns : 8 ≤ columns) (x y : Int) {sprite : List UInt8}
    (hheight : sprite.length ≤ rows) :
    ∑ p : Fin columns × Fin rows, (dots columns rows x y sprite p.1.val p.2.val).toNat =
      dotCount sprite := by
  induction sprite generalizing y with
  | nil => simp [dots, dotCount]
  | cons b rest ih =>
    rw [List.length_cons] at hheight
    -- the rows below the first one do not come back to it, so no pixel is counted twice
    have hsplit (px py : Int) : (dots columns rows x y (b :: rest) px py).toNat =
        (decide (py % rows = y % rows) && rowDot columns x b px).toNat +
          (dots columns rows x (y + 1) rest px py).toNat := by
      rw [dots]
      by_cases hrow : py % rows = y % rows
      · simp [hrow, dots_below hheight hrow]
      · simp [hrow]
    simp only [hsplit, Finset.sum_add_distrib]
    rw [ih (y + 1) (by omega), Fintype.sum_prod_type]
    simp only [sum_onRow (show 0 < rows by omega), sum_rowDot hcolumns]
    exact List.count_append.symm

/-- The dots of a sprite that is no taller than the screen are its bits, the highest to the left. -/
theorem dots_under (hcolumns : 8 ≤ columns) (x y : Int) {sprite : List UInt8}
    (hheight : sprite.length ≤ rows) {r c : Nat} (hr : r < sprite.length) (hc : c < 8) :
    dots columns rows x y sprite ((x + c) % columns) ((y + r) % rows) =
      sprite[r].toNat.testBit (7 - c) := by
  have hcolumn : offset columns x ((x + c) % columns) = c :=
    (emod_eq_add_iff (by omega) x _).1 (Int.emod_emod _ _)
  have hrow : offset rows y ((y + r) % rows) = r :=
    (emod_eq_add_iff (by omega) y _).1 (Int.emod_emod _ _)
  rw [dots_eq hheight, hrow, List.getElem?_eq_getElem hr]
  simp [rowDot, hcolumn, hc]

theorem dots_beside {x y px py : Int} (hcolumns : 8 ≤ columns) {sprite : List UInt8}
    (hheight : sprite.length ≤ rows) (hbeside : ∀ r < sprite.length, ∀ c < 8,
      ¬ (px % columns = (x + (c : Nat)) % columns ∧ py % rows = (y + (r : Nat)) % rows)) :
    dots columns rows x y sprite px py = false := by
  rw [dots_eq hheight]
  cases hbyte : sprite[offset rows y py]? with
  | none => rfl
  | some b =>
    obtain ⟨hr, -⟩ := List.getElem?_eq_some_iff.1 hbyte
    have hcolumn : ¬ offset columns x px < 8 := fun hc =>
      hbeside _ hr _ hc ⟨(add_offset_emod (by omega) x px).symm,
        (add_offset_emod (by omega) y py).symm⟩
    simp [rowDot, hcolumn]

/-- A pixel has been turned off. -/
def TurnsOff (before after : Display columns rows) : Prop :=
  ∃ px py, before.get px py = true ∧ after.get px py = false

/-- A sprite has been drawn, with its upper left corner at a column and a row. -/
structure Drawn (before : Display columns rows) (x y : Int) (sprite : List UInt8)
    (after : Display columns rows) : Prop where
  under : ∀ r (hr : r < sprite.length) (c : Nat), c < 8 →
    after.get ((x + c) % columns) ((y + r) % rows) =
      xor (before.get ((x + c) % columns) ((y + r) % rows)) (sprite[r].toNat.testBit (7 - c))
  beside : ∀ px py, (∀ r < sprite.length, ∀ c < 8,
      ¬ (px % columns = (x + (c : Nat)) % columns ∧ py % rows = (y + (r : Nat)) % rows)) →
    after.get px py = before.get px py
  lit : (after.lit : Int) = before.lit + dotCount sprite - 2 * switchedOff before after

section Inverting

variable {before after : Display columns rows} {x y : Int} {sprite : List UInt8}
  (hcolumns : 8 ≤ columns) (hheight : sprite.length ≤ rows)
  (hdrawn : ∀ px py, after.get px py =
    xor (before.get px py) (dots columns rows x y sprite px py))

include hcolumns hheight hdrawn in
/-- Each dot turns a pixel on, or turns off one that has been on. -/
theorem lit_add_switchedOff :
    after.lit + 2 * switchedOff before after = before.lit + dotCount sprite := by
  rw [lit_eq_sum, lit_eq_sum, ← sum_dots hcolumns x y hheight, switchedOff, Finset.card_filter,
    Finset.mul_sum, ← Finset.sum_add_distrib, ← Finset.sum_add_distrib]
  refine Finset.sum_congr rfl fun p _ => ?_
  rw [hdrawn]
  cases before.get p.1.val p.2.val <;>
    cases dots columns rows x y sprite p.1.val p.2.val <;> rfl

include hcolumns hheight hdrawn in
theorem drawn_of_inverted : before.Drawn x y sprite after where
  under r hr c hc := by rw [hdrawn, dots_under hcolumns x y hheight hr hc]
  beside px py hbeside := by
    rw [hdrawn, dots_beside hcolumns hheight hbeside, Bool.xor_false]
  lit := by
    have hcount := lit_add_switchedOff hcolumns hheight hdrawn
    omega

include hdrawn in
theorem turnsOff_iff_of_inverted : before.TurnsOff after ↔
    ∃ px py, before.get px py = true ∧ dots columns rows x y sprite px py = true := by
  refine exists_congr fun px => exists_congr fun py => and_congr_right fun hon => ?_
  rw [hdrawn, hon, Bool.true_xor, Bool.not_eq_false']

end Inverting

/-- A sprite that is no taller than the screen is drawn in place, and collides if a pixel is turned
off. -/
theorem drawn_drawRows (hcolumns : 8 ≤ columns) (hrows : 0 < rows) (d : Display columns rows)
    {x : Int} (hlow : Word.holds x) (hhigh : Word.holds (x + 7)) (y : Int) {sprite : List UInt8}
    (hheight : sprite.length ≤ rows) :
    d.Drawn x y sprite (d.drawRows (spriteColumns x) y sprite).1 ∧
      ((d.drawRows (spriteColumns x) y sprite).2 = true ↔
        d.TurnsOff (d.drawRows (spriteColumns x) y sprite).1) := by
  rw [spriteColumns_eq hlow hhigh]
  have hdrawn := fun px py => d.get_drawRows hrows hcolumns x y px py sprite
  refine ⟨drawn_of_inverted hcolumns hheight hdrawn, ?_⟩
  rw [drawRows_collision hcolumns d x y hheight, turnsOff_iff_of_inverted hdrawn]

end Display

end Chip8
