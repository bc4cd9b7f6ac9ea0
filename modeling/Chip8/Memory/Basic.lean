/-
# Memory

Memory has 4096 bytes, and an address is taken modulo that size, so every integer is an address.
The glyphs of the hexadecimal digits stand at the bottom.
-/

import Chip8.Instruction.Encoding

namespace Chip8

/-- The number of bytes of memory. -/
def memorySize : Nat := 4096

/-- The number of bytes of a glyph. -/
def glyphSize : Nat := 5

/-- The glyphs of the hexadecimal digits, four pixels wide and five rows high. -/
def font : List UInt8 :=
  [0xF0, 0x90, 0x90, 0x90, 0xF0,
    0x20, 0x60, 0x20, 0x20, 0x70,
    0xF0, 0x10, 0xF0, 0x80, 0xF0,
    0xF0, 0x10, 0xF0, 0x10, 0xF0,
    0x90, 0x90, 0xF0, 0x10, 0x10,
    0xF0, 0x80, 0xF0, 0x10, 0xF0,
    0xF0, 0x80, 0xF0, 0x90, 0xF0,
    0xF0, 0x10, 0x20, 0x40, 0x40,
    0xF0, 0x90, 0xF0, 0x90, 0xF0,
    0xF0, 0x90, 0xF0, 0x10, 0xF0,
    0xF0, 0x90, 0xF0, 0x90, 0x90,
    0xE0, 0x90, 0xE0, 0x90, 0xE0,
    0xF0, 0x80, 0x80, 0x80, 0xF0,
    0xE0, 0x90, 0x90, 0x90, 0xE0,
    0xF0, 0x80, 0xF0, 0x80, 0xF0,
    0xF0, 0x80, 0xF0, 0x80, 0x80]

/-- The cell that an address names. -/
def cellOf (address : Int) : Address := ⟨(address % 4096).toNat, by omega⟩

/-- The memory of the machine. -/
structure Memory where
  cells : Vector UInt8 4096
  deriving DecidableEq

namespace Memory

/-- The byte at an address. -/
def read (m : Memory) (address : Int) : UInt8 := m.cells[cellOf address]

/-- Stores a byte at an address. -/
def write (m : Memory) (address : Int) (b : UInt8) : Memory :=
  { cells := m.cells.set (cellOf address) b }

/-- The bytes from an address on. -/
def readBlock (m : Memory) (address : Int) (count : Nat) : List UInt8 :=
  (List.range count).map fun (k : Nat) => m.read (address + k)

/-- Stores bytes from an address on. -/
def load (m : Memory) (address : Int) : List UInt8 → Memory
  | [] => m
  | b :: rest => (m.write address b).load (address + 1) rest

/-- The word at an address, its high byte first. -/
def readWord (m : Memory) (address : Int) : Nat :=
  wordOfBytes (m.read address) (m.read (address + 1))

/-- The instruction at an address. -/
def instructionAt (m : Memory) (address : Int) : Instruction := decode (m.readWord address)

/-- Stores the glyphs. -/
def loadFont (m : Memory) : Memory := m.load 0 font

/-- Memory that holds the glyphs and nothing else. -/
def initial : Memory := loadFont { cells := Vector.replicate 4096 0 }

/-- A byte that has been stored is read back. -/
@[simp] theorem read_write_self (m : Memory) (address : Int) (b : UInt8) :
    (m.write address b).read address = b := by
  simp [read, write]

/-- Storing a byte leaves the other cells alone. -/
theorem read_write_of_ne (m : Memory) {address other : Int} (b : UInt8)
    (hcells : cellOf address ≠ cellOf other) : (m.write address b).read other = m.read other := by
  have hindex : (cellOf address).val ≠ (cellOf other).val := fun h => hcells (Fin.ext h)
  simp [read, write, hindex]

end Memory

end Chip8
