/-
# Instructions as text

An instruction is printed as its mnemonic and its slots with single blanks between them. Registers
are `V` and a digit, addresses have a `0x` mark and three digits, other numbers are decimal.
-/

import Chip8.Instruction.Encoding

namespace Chip8.Instruction

/-- The value of an operand field as text. -/
def fieldText (f : Field) (value : Nat) : Text :=
  match f with
  | .x | .y => 'V' :: Text.hexNat value
  | .nnn => '0' :: 'x' :: Text.hexPadded 3 value
  | .n | .nn => Text.decimalNat value

/-- What stands in a slot of the printed instruction. -/
def slotText (i : Instruction) : Slot → Text
  | .keyword k => k.text
  | .field f => fieldText f (i.operand f)

/-- The words of the printed instruction. -/
def printedWords (i : Instruction) : List Text :=
  i.opcode.format.mnemonic :: i.opcode.format.slots.map i.slotText

/-- The instruction as text. -/
def text (i : Instruction) : Text := Text.join [' '] i.printedWords

end Chip8.Instruction
