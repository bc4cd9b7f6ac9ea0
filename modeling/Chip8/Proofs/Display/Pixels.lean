/-
# Sprites pixel by pixel

A sprite is drawn row by row through lists of columns and bits. Here every pixel of the drawn
screen is given on its own: it is the old pixel, inverted once for every row of the sprite that
inks it. Which rows do is settled by the sprite and its place alone, also where a row meets a column
more than once. On screens of eight columns or more it does not, the ink of a row is its dots, and
the collision flag is told by the pixels as well.
-/

import Chip8.Display
import Chip8.Proofs.Wrapping

namespace Chip8

namespace Display

variable {columns rows : Nat}

variable (hcolumns : 0 < columns) (hrows : 0 < rows)

include hcolumns hrows in
theorem place_lt (x y : Int) : place columns rows x y < columns * rows := by
  have hx : x % columns < columns := Int.emod_lt_of_pos x (by omega)
  have hx' : 0 ≤ x % columns := Int.emod_nonneg x (by omega)
  have hy : y % rows < rows := Int.emod_lt_of_pos y (by omega)
  unfold place
  calc (x % columns).toNat * rows + (y % rows).toNat
      < (x % columns).toNat * rows + rows := by omega
    _ = ((x % columns).toNat + 1) * rows := by rw [Nat.add_mul, Nat.one_mul]
    _ ≤ columns * rows := Nat.mul_le_mul_right rows (by omega)

include hcolumns hrows in
/-- Places are the same only if both coordinates are the same up to wrapping. -/
theorem place_inj (x y x' y' : Int) : place columns rows x y = place columns rows x' y' ↔
    x % columns = x' % columns ∧ y % rows = y' % rows := by
  have hx : 0 ≤ x % columns := Int.emod_nonneg x (by omega)
  have hx' : 0 ≤ x' % columns := Int.emod_nonneg x' (by omega)
  have hy : 0 ≤ y % rows := Int.emod_nonneg y (by omega)
  have hy' : 0 ≤ y' % rows := Int.emod_nonneg y' (by omega)
  have hylt : y % rows < rows := Int.emod_lt_of_pos y (by omega)
  have hylt' : y' % rows < rows := Int.emod_lt_of_pos y' (by omega)
  unfold place
  constructor
  · intro hplace
    have hcolumn := congrArg (· / rows) hplace
    simp only [Nat.mul_comm _ rows, Nat.mul_add_div hrows,
      Nat.div_eq_of_lt (show (y % rows).toNat < rows by omega),
      Nat.div_eq_of_lt (show (y' % rows).toNat < rows by omega)] at hcolumn
    rw [show (x % columns).toNat = (x' % columns).toNat from hcolumn] at hplace
    omega
  · rintro ⟨hcolumn, hrow⟩
    rw [hcolumn, hrow]

theorem get_congr (d : Display columns rows) {x y x' y' : Int} (hx : x % columns = x' % columns)
    (hy : y % rows = y' % rows) : d.get x y = d.get x' y' := by
  unfold get place
  rw [hx, hy]

theorem ext_get {d d' : Display columns rows} (hpixels : ∀ x y, d.get x y = d'.get x y) :
    d = d' := by
  obtain ⟨pixels⟩ := d
  obtain ⟨pixels'⟩ := d'
  refine congrArg Display.mk (Vector.ext fun k hk => ?_)
  have hrows : 0 < rows := Nat.pos_of_ne_zero (by rintro rfl; simp at hk)
  have hcolumn : k / rows < columns := Nat.div_lt_of_lt_mul (by rwa [Nat.mul_comm])
  have hplace : place columns rows (k / rows : Nat) (k % rows : Nat) = k := by
    have hrow := Nat.mod_lt k hrows
    rw [place, ← Int.natCast_emod, ← Int.natCast_emod, Int.toNat_natCast, Int.toNat_natCast,
      Nat.mod_eq_of_lt hcolumn, Nat.mod_eq_of_lt hrow, Nat.div_add_mod']
  have hpixel := hpixels (k / rows : Nat) (k % rows : Nat)
  simpa only [get, hplace, Vector.getElem?_eq_getElem hk, Option.getD_some] using hpixel

include hcolumns hrows in
/-- A pixel that is turned on or off, and all others. -/
theorem get_set (d : Display columns rows) (x y x' y' : Int) (on : Bool) :
    (d.set x y on).get x' y' =
      if x' % columns = x % columns ∧ y' % rows = y % rows then on else d.get x' y' := by
  have hlt := place_lt hcolumns hrows x y
  unfold get set
  by_cases hplace : place columns rows x y = place columns rows x' y'
  · have hsame := (place_inj hcolumns hrows x y x' y').1 hplace
    simp [← hplace, hlt, hsame.1, hsame.2]
  · have hother : ¬ (x' % columns = x % columns ∧ y' % rows = y % rows) := fun h =>
      hplace ((place_inj hcolumns hrows x y x' y').2 ⟨h.1.symm, h.2.symm⟩)
    rw [Vector.getElem?_setIfInBounds_ne hplace, if_neg hother]

theorem obstacle?_eq_none_iff {x : Int} {height : Nat} :
    obstacle? columns rows x height = none ↔
      Word.holds x = true ∧ (height = 0 ∨ 0 < columns ∧ 0 < rows) := by
  unfold obstacle?
  split_ifs <;> simp_all [Nat.pos_iff_ne_zero]

theorem draw_eq_ok (d : Display columns rows) {x : Int} (y : Int) {sprite : List UInt8}
    (hfree : obstacle? columns rows x sprite.length = none) :
    d.draw x y sprite = .ok (d.drawRows (spriteColumns x) y sprite) := by
  rw [draw, hfree]

/-- What a row of writes leaves in the pixels of a column: the last write to it counts. -/
def lastWrite (columns : Nat) (px : Int) : List (Int × Bool) → Option Bool
  | [] => none
  | (x, on) :: rest =>
    (lastWrite columns px rest).or (if px % columns = x % columns then some on else none)

include hcolumns hrows in
/-- Writing pixels of a row changes the pixels that are written to and no other. -/
theorem get_setRow (d : Display columns rows) (y px py : Int) (writes : List (Int × Bool)) :
    (d.setRow y writes).get px py =
      if py % rows = y % rows then (lastWrite columns px writes).getD (d.get px py)
      else d.get px py := by
  induction writes generalizing d with
  | nil => simp [setRow, lastWrite]
  | cons write rest ih =>
    obtain ⟨x, on⟩ := write
    rw [setRow, ih, get_set hcolumns hrows]
    by_cases hrow : py % rows = y % rows
    · cases hlast : lastWrite columns px rest with
      | none =>
        by_cases hcolumn : px % columns = x % columns <;> simp [lastWrite, hlast, hrow, hcolumn]
      | some later => simp [lastWrite, hlast, hrow]
    · simp [hrow]

/-- The last of some writes that invert pixels by bits inverts by the last of the bits. -/
theorem lastWrite_inverted (d : Display columns rows) {y px py : Int}
    (hrow : py % rows = y % rows) (xs : List Int) (bits : List Bool) :
    lastWrite columns px (xs.zip ((xs.map fun x => d.get x y).zipWith xor bits)) =
      (lastWrite columns px (xs.zip bits)).map (xor (d.get px py)) := by
  induction xs generalizing bits with
  | nil => rfl
  | cons x xs ih =>
    cases bits with
    | nil => rfl
    | cons bit bits =>
      simp only [List.map_cons, List.zipWith_cons_cons, List.zip_cons_cons, lastWrite, ih,
        Option.map_or]
      by_cases hcolumn : px % columns = x % columns
      · simp [hcolumn, d.get_congr hcolumn hrow]
      · simp [hcolumn]

/-- A row of a sprite inverts the pixels of a column. Of the bits that meet the column, the last
counts. -/
def rowInk (columns : Nat) (xs : List Int) (b : UInt8) (px : Int) : Bool :=
  (lastWrite columns px (xs.zip (spriteBits b))).getD false

/-- The sprite inverts the pixel, since an odd number of its rows do. -/
def ink (columns rows : Nat) (xs : List Int) (y : Int) : List UInt8 → Int → Int → Bool
  | [], _, _ => false
  | b :: rest, px, py =>
    xor (decide (py % rows = y % rows) && rowInk columns xs b px)
      (ink columns rows xs (y + 1) rest px py)

include hcolumns hrows in
theorem get_drawRow_eq_ink (d : Display columns rows) (xs : List Int) (y px py : Int) (b : UInt8) :
    (d.drawRow xs y b).1.get px py =
      xor (d.get px py) (decide (py % rows = y % rows) && rowInk columns xs b px) := by
  rw [drawRow, get_setRow hcolumns hrows]
  by_cases hrow : py % rows = y % rows
  · rw [lastWrite_inverted d hrow, if_pos hrow, rowInk]
    cases lastWrite columns px (xs.zip (spriteBits b)) <;> simp [hrow]
  · simp [hrow]

include hcolumns hrows in
/-- Whatever columns a sprite is drawn in, each pixel is inverted or not, and it does not depend on
the screen which. -/
theorem get_drawRows_eq_ink (d : Display columns rows) (xs : List Int) (y px py : Int)
    (sprite : List UInt8) :
    (d.drawRows xs y sprite).1.get px py =
      xor (d.get px py) (ink columns rows xs y sprite px py) := by
  induction sprite generalizing d y with
  | nil => simp [drawRows, ink]
  | cons b rest ih =>
    rw [drawRows, ink]
    simp only
    rw [ih, get_drawRow_eq_ink hcolumns hrows, Bool.xor_assoc]

/-- On a screen of eight columns or more, successive writes of a row meet each column once. -/
theorem lastWrite_successive (hcolumns : 8 ≤ columns) (x px : Int) (on : Nat → Bool)
    {ks : List Nat} (hks : ∀ k ∈ ks, k < 8) :
    lastWrite columns px (ks.map fun (k : Nat) => (x + k, on k)) =
      if offset columns x px ∈ ks then some (on (offset columns x px)) else none := by
  induction ks with
  | nil => rfl
  | cons k rest ih =>
    have hk : k < 8 := hks k List.mem_cons_self
    have hcolumn : px % columns = (x + k) % columns ↔ offset columns x px = k :=
      emod_eq_add_iff (by omega) x px
    rw [List.map_cons, lastWrite, ih fun j hj => hks j (List.mem_cons_of_mem k hj)]
    by_cases hoffset : offset columns x px = k
    · subst hoffset
      by_cases hrest : offset columns x px ∈ rest <;> simp [hcolumn, hrest]
    · simp [hcolumn, hoffset]

/-- A row of a sprite from a column on has a dot at a place. -/
def rowDot (columns : Nat) (x : Int) (b : UInt8) (px : Int) : Bool :=
  let k := offset columns x px
  decide (k < 8) && b.toNat.testBit (7 - k)

theorem spriteColumns_eq {x : Int} (hlow : Word.holds x) (hhigh : Word.holds (x + 7)) :
    spriteColumns x = (List.range 8).map fun (k : Nat) => x + k := by
  refine List.map_congr_left fun k hk => Word.wrap_eq_self ?_
  have hk : k < 8 := List.mem_range.1 hk
  simp only [Word.holds, decide_eq_true_eq] at hlow hhigh ⊢
  omega

theorem rowInk_eq_rowDot (hcolumns : 8 ≤ columns) (x px : Int) (b : UInt8) :
    rowInk columns ((List.range 8).map fun (k : Nat) => x + k) b px = rowDot columns x b px := by
  rw [rowInk, spriteBits, List.zip_map',
    lastWrite_successive hcolumns x px _ fun k hk => List.mem_range.1 hk]
  by_cases hoffset : offset columns x px < 8 <;> simp [rowDot, hoffset]

include hrows in
/-- Drawing a row inverts the pixels of the row under its dots. -/
theorem get_drawRow (hcolumns : 8 ≤ columns) (d : Display columns rows) (x y px py : Int)
    (b : UInt8) :
    (d.drawRow ((List.range 8).map fun (k : Nat) => x + k) y b).1.get px py =
      xor (d.get px py) (decide (py % rows = y % rows) && rowDot columns x b px) := by
  rw [get_drawRow_eq_ink (by omega) hrows, rowInk_eq_rowDot hcolumns]

/-- Drawing a row turns a pixel off if one of its dots is on a pixel that is on. -/
theorem drawRow_collision (hcolumns : 8 ≤ columns) (d : Display columns rows) (x y : Int)
    (b : UInt8) :
    (d.drawRow ((List.range 8).map fun (k : Nat) => x + k) y b).2 = true ↔
      ∃ px, d.get px y = true ∧ rowDot columns x b px = true := by
  have hflag : (d.drawRow ((List.range 8).map fun (k : Nat) => x + k) y b).2 =
      (List.range 8).any fun (k : Nat) => d.get (x + k) y && b.toNat.testBit (7 - k) := rfl
  rw [hflag]
  simp only [List.any_eq_true, List.mem_range, Bool.and_eq_true]
  constructor
  · rintro ⟨k, hk, hon, hbit⟩
    have hoffset : offset columns x (x + k) = k := (emod_eq_add_iff (by omega) x (x + k)).1 rfl
    exact ⟨x + k, hon, by simp [rowDot, hoffset, hk, hbit]⟩
  · rintro ⟨px, hon, hdot⟩
    simp only [rowDot, Bool.and_eq_true, decide_eq_true_eq] at hdot
    refine ⟨offset columns x px, hdot.1, ?_, hdot.2⟩
    rw [← hon]
    exact d.get_congr (add_offset_emod (by omega) x px) rfl

/-- The pixels that a sprite inverts: those with an odd number of dots. -/
def dots (columns rows : Nat) (x y : Int) : List UInt8 → Int → Int → Bool
  | [], _, _ => false
  | b :: rest, px, py =>
    xor (decide (py % rows = y % rows) && rowDot columns x b px)
      (dots columns rows x (y + 1) rest px py)

theorem dots_congr (x y : Int) {px py px' py' : Int} (sprite : List UInt8)
    (hx : px % columns = px' % columns) (hy : py % rows = py' % rows) :
    dots columns rows x y sprite px py = dots columns rows x y sprite px' py' := by
  induction sprite generalizing y with
  | nil => rfl
  | cons b rest ih => rw [dots, dots, ih, hy, rowDot, rowDot, offset_congr x hx]

theorem ink_eq_dots (hcolumns : 8 ≤ columns) (x y px py : Int) (sprite : List UInt8) :
    ink columns rows ((List.range 8).map fun (k : Nat) => x + k) y sprite px py =
      dots columns rows x y sprite px py := by
  induction sprite generalizing y with
  | nil => rfl
  | cons b rest ih => rw [ink, dots, ih, rowInk_eq_rowDot hcolumns]

include hrows in
/-- Drawing a sprite inverts its pixels and no other. -/
theorem get_drawRows (hcolumns : 8 ≤ columns) (d : Display columns rows) (x y px py : Int)
    (sprite : List UInt8) :
    (d.drawRows ((List.range 8).map fun (k : Nat) => x + k) y sprite).1.get px py =
      xor (d.get px py) (dots columns rows x y sprite px py) := by
  rw [get_drawRows_eq_ink (by omega) hrows, ink_eq_dots hcolumns]

/-- A sprite that is no taller than the screen has one row at most on every row of the screen. -/
theorem dots_eq {x y px py : Int} {sprite : List UInt8} (hheight : sprite.length ≤ rows) :
    dots columns rows x y sprite px py =
      (sprite[offset rows y py]?).any fun b => rowDot columns x b px := by
  induction sprite generalizing y with
  | nil => rfl
  | cons b rest ih =>
    rw [List.length_cons] at hheight
    have hfirst : py % rows = y % rows ↔ offset rows y py = 0 := by
      simpa using emod_eq_add_iff (k := 0) (show 0 < rows by omega) y py
    rw [dots, ih (by omega), offset_add_one (by omega)]
    by_cases hoffset : offset rows y py = 0
    · have hbeyond : rest[rows - 1]? = none := List.getElem?_eq_none (by omega)
      simp [hfirst, hoffset, hbeyond]
    · obtain ⟨k, hk⟩ := Nat.exists_eq_succ_of_ne_zero hoffset
      simp [hfirst, hk]

/-- The rows below the first row of a sprite that is no taller than the screen do not come back to
that row. -/
theorem dots_below {x y px py : Int} {rest : List UInt8} (hheight : rest.length < rows)
    (hrow : py % rows = y % rows) : dots columns rows x (y + 1) rest px py = false := by
  have hfirst : offset rows y py = 0 :=
    (emod_eq_add_iff (by omega) y py).1 (by simpa using hrow)
  have hbeyond : rest[rows - 1]? = none := List.getElem?_eq_none (by omega)
  rw [dots_eq (by omega), offset_add_one (by omega), if_pos hfirst, hbeyond]
  rfl

/-- Drawing a sprite that is no taller than the screen turns a pixel off if one of the pixels that
it inverts is on. -/
theorem drawRows_collision (hcolumns : 8 ≤ columns) (d : Display columns rows) (x y : Int)
    {sprite : List UInt8} (hheight : sprite.length ≤ rows) :
    (d.drawRows ((List.range 8).map fun (k : Nat) => x + k) y sprite).2 = true ↔
      ∃ px py, d.get px py = true ∧ dots columns rows x y sprite px py = true := by
  -- Collisions are found while drawing, on a screen that the rows above have changed already. They
  -- have not changed the row at hand, since no two rows of the sprite share one.
  induction sprite generalizing d y with
  | nil => simp [drawRows, dots]
  | cons b rest ih =>
    rw [List.length_cons] at hheight
    have hrows : 0 < rows := by omega
    simp only [drawRows, dots, Bool.or_eq_true]
    rw [drawRow_collision hcolumns, ih _ _ (by omega)]
    constructor
    · rintro (⟨px, hon, hdot⟩ | ⟨px, py, hon, hdots⟩)
      · refine ⟨px, y, hon, ?_⟩
        rw [dots_below hheight rfl]
        simpa using hdot
      · have hrow : py % rows ≠ y % rows := fun hrow => by
          rw [dots_below hheight hrow] at hdots
          cases hdots
        rw [get_drawRow hrows hcolumns] at hon
        exact ⟨px, py, by simpa [hrow] using hon, by simpa [hrow] using hdots⟩
    · rintro ⟨px, py, hon, hdots⟩
      by_cases hrow : py % rows = y % rows
      · rw [dots_below hheight hrow] at hdots
        exact .inl ⟨px, by rwa [d.get_congr rfl hrow.symm], by simpa [hrow] using hdots⟩
      · refine .inr ⟨px, py, ?_, by simpa [hrow] using hdots⟩
        rw [get_drawRow hrows hcolumns]
        simpa [hrow] using hon

end Display

end Chip8
