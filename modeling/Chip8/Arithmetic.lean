/-
# Arithmetic on bytes

The operations that instructions perform on register values. Operands are taken as integers of any
size, and every result is a byte; where an operation has a flag, the flag comes with the result.
-/

namespace Chip8.Arithmetic

/-- The lowest byte of an integer, as a number. -/
def lowByte (a : Int) : Nat := (a % 256).toNat

/-- Sum of two values, and whether it exceeds a byte. -/
def addCarry (a b : Int) : Int × Bool := ((a + b) % 256, decide (255 < a + b))

/-- Difference of two values, and whether it needs no borrow. -/
def subNoBorrow (a b : Int) : Int × Bool := ((a - b) % 256, decide (b ≤ a))

/-- Half of a byte, and the bit that is shifted out. -/
def shiftRight (a : Int) : Int × Bool := (a % 256 / 2, a % 2 == 1)

/-- Double of a value, and the bit that is shifted out of the byte. -/
def shiftLeft (a : Int) : Int × Bool := (a * 2 % 256, decide (128 ≤ a % 256))

/-- Bitwise or of the lowest bytes. -/
def bitOr (a b : Int) : Int := (lowByte a ||| lowByte b : Nat)

/-- Bitwise and of the lowest bytes. -/
def bitAnd (a b : Int) : Int := (lowByte a &&& lowByte b : Nat)

/-- Bitwise exclusive or of the lowest bytes. -/
def bitXor (a b : Int) : Int := (lowByte a ^^^ lowByte b : Nat)

/-- Sum of two values without a flag. -/
def addWrapping (a b : Int) : Int := (a + b) % 256

/-- The hundreds, tens and ones of the lowest byte. -/
def decimalDigits (a : Int) : List Nat :=
  [lowByte a / 100, lowByte a / 10 % 10, lowByte a % 10]

/-- The lowest byte is a byte. -/
theorem lowByte_lt (a : Int) : lowByte a < 256 := by
  unfold lowByte; omega

end Chip8.Arithmetic
