/-
# The screen

A screen of one-bit pixels. Coordinates wrap around, each in its own direction, so every pair of
integers names a pixel. A sprite is drawn row by row by exclusive or; drawing reports a collision
when it turns a lit pixel off.

The columns of a sprite are counted in words. Where a row of a sprite meets a column more than once,
as on a screen of fewer than eight columns, all eight pixels are read before the first is written,
and the last write to a pixel counts.
-/

import Chip8.Fault
import Chip8.Word

namespace Chip8

/-- A screen with the given numbers of columns and rows. Pixels are stored column by column. -/
structure Display (columns rows : Nat) where
  pixels : Vector Bool (columns * rows)
  deriving DecidableEq

namespace Display

variable {columns rows : Nat}

/-- The screen with all pixels off. -/
def blank (columns rows : Nat) : Display columns rows := { pixels := Vector.replicate _ false }

/-- The place of the pixel at a pair of coordinates. -/
def place (columns rows : Nat) (x y : Int) : Nat :=
  (x % columns).toNat * rows + (y % rows).toNat

/-- The pixel at a pair of coordinates is on. -/
def get (d : Display columns rows) (x y : Int) : Bool :=
  (d.pixels[place columns rows x y]?).getD false

/-- Turns the pixel at a pair of coordinates on or off. -/
def set (d : Display columns rows) (x y : Int) (on : Bool) : Display columns rows :=
  { pixels := d.pixels.setIfInBounds (place columns rows x y) on }

/-- The pixels of one row of a sprite, from left to right. -/
def spriteBits (b : UInt8) : List Bool := (List.range 8).map fun k => b.toNat.testBit (7 - k)

/-- The columns of a sprite from a column on, towards the right. -/
def spriteColumns (x : Int) : List Int := (List.range 8).map fun (k : Nat) => Word.wrap (x + k)

/-- Turns pixels of a row on or off. -/
def setRow (d : Display columns rows) (y : Int) : List (Int × Bool) → Display columns rows
  | [] => d
  | (x, on) :: rest => (d.set x y on).setRow y rest

/-- Draws one row of a sprite, and tells whether it turned a pixel off. -/
def drawRow (d : Display columns rows) (xs : List Int) (y : Int) (b : UInt8) :
    Display columns rows × Bool :=
  let bits := spriteBits b
  let before := xs.map fun x => d.get x y
  (d.setRow y (xs.zip (before.zipWith xor bits)), (before.zipWith and bits).any id)

/-- Draws the rows of a sprite, from the top. -/
def drawRows (d : Display columns rows) (xs : List Int) (y : Int) :
    List UInt8 → Display columns rows × Bool
  | [] => (d, false)
  | b :: rest =>
    let (drawn, collision) := d.drawRow xs y b
    let (finished, later) := drawn.drawRows xs (y + 1) rest
    (finished, collision || later)

/-- What keeps a sprite of so many rows from being drawn from a column on. The column is looked at
even if the sprite has no rows. -/
def obstacle? (columns rows : Nat) (x : Int) (height : Nat) : Option DrawError :=
  if !Word.holds x then some (.columnOverflow x)
  else if height = 0 then none
  else if rows = 0 then some .noRows
  else if columns = 0 then some .noColumns
  else none

/-- Draws a sprite, and tells whether it turned a pixel off. -/
def draw (d : Display columns rows) (x y : Int) (sprite : List UInt8) :
    Except DrawError (Display columns rows × Bool) :=
  match obstacle? columns rows x sprite.length with
  | some error => .error error
  | none => .ok (d.drawRows (spriteColumns x) y sprite)

/-- The pixel at a pair of coordinates is on; a screen without pixels cannot tell. -/
def get? (d : Display columns rows) (x y : Int) : Option Bool :=
  if columns = 0 ∨ rows = 0 then none else some (d.get x y)

/-- The number of pixels that are on. -/
def lit (d : Display columns rows) : Nat := d.pixels.toList.count true

/-- The pixels of a row, from left to right. -/
def row (d : Display columns rows) (y : Nat) : List Bool :=
  (List.range columns).map fun (x : Nat) => d.get x y

/-- The screen as one text per row. -/
def render (d : Display columns rows) (on off : Text) : List Text :=
  (List.range rows).map fun y => (d.row y).flatMap fun pixel => if pixel then on else off

end Display

end Chip8
