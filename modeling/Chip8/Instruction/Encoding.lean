/-
# Instruction words

The word of an instruction is the pattern of its format with the operands in their fields. A word
decodes to the instruction whose pattern it shows under the mask of the format; a word that shows
no pattern decodes to `NOP`, so junk in memory never stops the machine. In memory a word stands
with its high byte first.
-/

import Chip8.Instruction.Format
import Chip8.Word

namespace Chip8

/-- Why operands given as integers make no instruction. -/
inductive OperandError where
  /-- the value does not fit into the field -/
  | outOfRange (op : Opcode) (field : Field) (value : Int)
  /-- the instruction has no address to replace -/
  | noAddress (op : Opcode)
  deriving DecidableEq, Repr

/-- The wording of the error. -/
def OperandError.message : OperandError → String
  | .outOfRange op field value =>
    s!"{op.format.name}.{field.name}={value} does not fit in {field.width} bits"
  | .noAddress op => s!"{op.format.name} has no address"

/-- The high byte in front of the low byte. -/
def wordOfBytes (high low : UInt8) : Nat := high.toNat <<< 8 ||| low.toNat

/-- The two bytes of a word, the high one first. -/
def bytesOfWord (word : Nat) : List UInt8 := [UInt8.ofNat (word / 256), UInt8.ofNat word]

/-- What decoding compares: the rows of the table with their masks worked out. -/
def decodingRows : List (Opcode × Nat × Nat) :=
  Opcode.all.map fun op => (op, op.format.mask, op.format.pattern)

/-- The instruction that a word stands for. -/
def decode (word : Nat) : Instruction :=
  match decodingRows.find? fun (_, mask, pattern) => word &&& mask == pattern with
  | some (op, _) => op.build fun f => word / f.weight
  | none => .nop

/-- The instruction that an integer stands for, by its lowest sixteen bits. -/
def decodeInt (word : Int) : Instruction := decode (word % 0x10000).toNat

namespace Instruction

/-- The word of the instruction. -/
def encode (i : Instruction) : Nat :=
  i.operands.foldl (fun word (f, value) => word ||| value <<< f.shift) i.opcode.format.pattern

/-- The two bytes of the instruction. -/
def bytes (i : Instruction) : List UInt8 := bytesOfWord i.encode

/-- The instruction with the given operands, in the order in which the fields are declared. The
first operand out of range is reported. -/
def ofOperands (op : Opcode) (values : List Int) : Except OperandError Instruction :=
  let given := op.format.fields.zip values
  match given.find? fun (field, value) => value < 0 || (field.limit : Int) ≤ value with
  | some (field, value) => .error (.outOfRange op field value)
  | none => .ok (op.build fun field => ((given.lookup field).getD 0).toNat)

/-- The instruction with another address in place of its own. -/
def withAddress (i : Instruction) (address : Int) : Except OperandError Instruction :=
  if .nnn ∈ i.opcode.format.fields then ofOperands i.opcode [address]
  else .error (.noAddress i.opcode)

end Instruction

/-- The position that an index names in a row of `size` places; a negative index counts from the
end. -/
def positionOf? (size : Nat) (index : Int) : Option Nat :=
  if 0 ≤ index then (if index < size then some index.toNat else none)
  else if 0 ≤ index + size then some (index + size).toNat else none

/-- The byte that an index names. -/
def byteAt? (bytes : Array UInt8) (index : Int) : Option UInt8 :=
  (positionOf? bytes.size index).bind fun position => bytes[position]?

/-- Why there is no instruction at an index. -/
inductive IndexError where
  /-- the index is no word -/
  | overflow
  /-- a byte is missing -/
  | outOfRange
  deriving DecidableEq, Repr

/-- The wording of the error. -/
def IndexError.message : IndexError → String
  | .overflow => "the index does not fit in 64 bits"
  | .outOfRange => "index out of range"

/-- The instruction in the bytes at `index` and the index after it. -/
def decodeAt (bytes : Array UInt8) (index : Int) : Except IndexError Instruction :=
  if !Word.holds index then .error .overflow
  else match byteAt? bytes index, byteAt? bytes (index + 1) with
    | some high, some low => .ok (decode (wordOfBytes high low))
    | _, _ => .error .outOfRange

end Chip8
