/-
# Memory dumps

A dump shows memory in rows of sixteen bytes: the address of the row, the bytes, and the characters
that they stand for.
-/

import Chip8.Memory.Basic

namespace Chip8.Memory

/-- The number of bytes in a row. -/
def rowSize : Nat := 16

/-- A byte as a character: printable ASCII as itself, any other as a dot. -/
def byteChar (b : UInt8) : Char := if 0x20 ≤ b && b < 0x7F then Char.ofNat b.toNat else '.'

/-- The row of bytes from the cell on that an address names. -/
def dumpRow (m : Memory) (address : Int) : Text :=
  let cell := cellOf address
  let row := m.readBlock cell.val rowSize
  Text.hexPadded 3 cell ++ [' ', ' '] ++ Text.hexBytes row ++ [' ', ' '] ++ row.map byteChar

/-- The rows that show at least `length` bytes from `start` on. -/
def dumpRows (m : Memory) (start length : Int) : List Text :=
  (List.range ((length.toNat + (rowSize - 1)) / rowSize)).map fun (k : Nat) =>
    m.dumpRow (start + rowSize * k)

/-- The dump of at least `length` bytes from `start` on. -/
def dump (m : Memory) (start length : Int) : Text := Text.join ['\n'] (m.dumpRows start length)

end Chip8.Memory
