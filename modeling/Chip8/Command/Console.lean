/-
# Consoles

What a run shows of its final state: texts, the rows of the screen, and the cells of the registers
and the timers. How a console lays them out is its own affair, so it comes as operations, and what
a session does holds for all of them.
-/

import Chip8.Machine.Basic

namespace Chip8.Command

/-- How a console lays out what it is given. -/
structure Console where
  /-- a text that holds no marks -/
  text : Text → Text
  /-- rows of text in a frame with a title -/
  panel : Text → List Text → List Text
  /-- a table with a title, given by its rows of cells, with a row of further cells below it -/
  table : Text → List (List Text) → List Text → List Text

/-- The cells of the registers, eight in a row. -/
def registerCells (r : Registers) : List (List Text) :=
  let cells := r.v.toList.zipIdx.map fun (value, x) => Registers.registerText x value
  [cells.take 8, cells.drop 8]

/-- The cells of the other registers and the timers. The last one is empty if nothing waits. -/
def statusCells (r : Registers) (t : Timers) : List Text :=
  let wait : Text := match r.keyWait with
    | some x => "WAIT=V".toList ++ Text.hexNat x
    | none => []
  ["PC=$".toList ++ Text.hexSigned 3 r.pc,
   "I=$".toList ++ Text.hexSigned 4 r.index,
   "SP=".toList ++ Text.decimalNat r.stack.length,
   "DT=".toList ++ Text.decimalNat t.delay.toNat,
   "ST=".toList ++ Text.decimalNat t.sound.toNat,
   wait]

namespace Console

/-- The screen in a frame. -/
def screen {columns rows : Nat} (console : Console) (d : Display columns rows) : List Text :=
  console.panel "Display".toList (d.render ['█'] [' '])

/-- The registers and the timers. -/
def registers (console : Console) (r : Registers) (t : Timers) : List Text :=
  console.table "Registers".toList (registerCells r) (statusCells r t)

end Console

end Chip8.Command
