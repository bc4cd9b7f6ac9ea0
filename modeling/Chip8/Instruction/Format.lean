/-
# The instruction table

One table says for every opcode how its word is laid out and how it is written: the word with all
operand fields zero, the mnemonic, and the slots that follow the mnemonic. Encoding, decoding,
printing and reading all go through it, so they cannot disagree on an instruction.
-/

import Chip8.Instruction.Basic

namespace Chip8

/-- Operands with a fixed spelling. -/
inductive Keyword where
  /-- the index register -/
  | index
  /-- the delay timer -/
  | delay
  /-- the sound timer -/
  | sound
  /-- a key press -/
  | key
  /-- the glyph of a digit -/
  | glyph
  /-- the decimal digits -/
  | digits
  /-- the memory at the index -/
  | memory
  /-- register zero, where it is the only one allowed -/
  | v0
  deriving DecidableEq, Repr

namespace Keyword

/-- All keywords. -/
def all : List Keyword := [.index, .delay, .sound, .key, .glyph, .digits, .memory, .v0]

/-- The keyword as it is printed. -/
def text : Keyword → Text
  | .index => ['I']
  | .delay => ['D', 'T']
  | .sound => ['S', 'T']
  | .key => ['K']
  | .glyph => ['F']
  | .digits => ['B']
  | .memory => ['[', 'I', ']']
  | .v0 => ['V', '0']

/-- The keyword as it is recognised in folded text. -/
def lowerText (k : Keyword) : Text := k.text.map Char.toLower

end Keyword

/-- A place behind the mnemonic: an operand field or a keyword. -/
inductive Slot where
  | field (f : Field)
  | keyword (k : Keyword)
  deriving DecidableEq, Repr

/-- The field that the slot shows, if it shows one. -/
def Slot.field? : Slot → Option Field
  | .field f => some f
  | .keyword _ => none

/-- The slot in the notation of the instruction table: fields by name, keywords as printed. -/
def Slot.text : Slot → Text
  | .field f => f.name.toList
  | .keyword k => k.text

/-- How the instructions of one opcode are laid out and written. -/
structure Format where
  /-- the name of the opcode in messages -/
  name : String
  /-- the word with every operand field zero -/
  pattern : Nat
  /-- the word of the assembly language that starts the instruction -/
  mnemonic : Text
  /-- what follows the mnemonic -/
  slots : List Slot
  /-- further bits that decoding ignores -/
  ignored : Nat := 0
  deriving Repr

namespace Format

/-- The operand fields, in order. -/
def fields (format : Format) : List Field := format.slots.filterMap Slot.field?

/-- The bits that tell an instruction of this format from all others. -/
def mask (format : Format) : Nat :=
  format.fields.foldl (fun mask f => mask - (f.limit - 1) * f.weight) (0xFFFF - format.ignored)

end Format

namespace Opcode

/-- All opcodes, in the order of the table. -/
def all : List Opcode :=
  [.nop, .cls, .ret, .jp, .call, .jpOffset, .seByte, .sneByte, .seReg, .sneReg, .ldByte, .addByte,
    .ldReg, .or, .and, .xor, .addReg, .sub, .shr, .subn, .shl, .rnd, .ldIndex, .addIndex, .ldGlyph,
    .drw, .skp, .sknp, .waitKey, .getDelay, .setDelay, .setSound, .storeDigits, .storeRegs,
    .loadRegs]

/-- The row of the table. The shifts ignore their second register field. -/
def format : Opcode → Format
  | .nop => { name := "Nop", pattern := 0x0000, mnemonic := ['N', 'O', 'P'], slots := [] }
  | .cls => { name := "ClearScreen", pattern := 0x00E0, mnemonic := ['C', 'L', 'S'], slots := [] }
  | .ret => { name := "Ret", pattern := 0x00EE, mnemonic := ['R', 'E', 'T'], slots := [] }
  | .jp => { name := "Jump", pattern := 0x1000, mnemonic := ['J', 'P'], slots := [.field .nnn] }
  | .call =>
    { name := "Call", pattern := 0x2000, mnemonic := ['C', 'A', 'L', 'L'], slots := [.field .nnn] }
  | .jpOffset =>
    { name := "JumpOffset", pattern := 0xB000, mnemonic := ['J', 'P']
      slots := [.keyword .v0, .field .nnn] }
  | .seByte =>
    { name := "SkipEqImm", pattern := 0x3000, mnemonic := ['S', 'E']
      slots := [.field .x, .field .nn] }
  | .sneByte =>
    { name := "SkipNeImm", pattern := 0x4000, mnemonic := ['S', 'N', 'E']
      slots := [.field .x, .field .nn] }
  | .seReg =>
    { name := "SkipEqReg", pattern := 0x5000, mnemonic := ['S', 'E']
      slots := [.field .x, .field .y] }
  | .sneReg =>
    { name := "SkipNeReg", pattern := 0x9000, mnemonic := ['S', 'N', 'E']
      slots := [.field .x, .field .y] }
  | .ldByte =>
    { name := "SetImm", pattern := 0x6000, mnemonic := ['L', 'D']
      slots := [.field .x, .field .nn] }
  | .addByte =>
    { name := "AddImm", pattern := 0x7000, mnemonic := ['A', 'D', 'D']
      slots := [.field .x, .field .nn] }
  | .ldReg =>
    { name := "SetReg", pattern := 0x8000, mnemonic := ['L', 'D']
      slots := [.field .x, .field .y] }
  | .or =>
    { name := "OrReg", pattern := 0x8001, mnemonic := ['O', 'R']
      slots := [.field .x, .field .y] }
  | .and =>
    { name := "AndReg", pattern := 0x8002, mnemonic := ['A', 'N', 'D']
      slots := [.field .x, .field .y] }
  | .xor =>
    { name := "XorReg", pattern := 0x8003, mnemonic := ['X', 'O', 'R']
      slots := [.field .x, .field .y] }
  | .addReg =>
    { name := "AddReg", pattern := 0x8004, mnemonic := ['A', 'D', 'D']
      slots := [.field .x, .field .y] }
  | .sub =>
    { name := "SubReg", pattern := 0x8005, mnemonic := ['S', 'U', 'B']
      slots := [.field .x, .field .y] }
  | .shr =>
    { name := "ShiftRight", pattern := 0x8006, mnemonic := ['S', 'H', 'R']
      slots := [.field .x], ignored := 0x00F0 }
  | .subn =>
    { name := "SubFrom", pattern := 0x8007, mnemonic := ['S', 'U', 'B', 'N']
      slots := [.field .x, .field .y] }
  | .shl =>
    { name := "ShiftLeft", pattern := 0x800E, mnemonic := ['S', 'H', 'L']
      slots := [.field .x], ignored := 0x00F0 }
  | .rnd =>
    { name := "Rand", pattern := 0xC000, mnemonic := ['R', 'N', 'D']
      slots := [.field .x, .field .nn] }
  | .ldIndex =>
    { name := "SetIndex", pattern := 0xA000, mnemonic := ['L', 'D']
      slots := [.keyword .index, .field .nnn] }
  | .addIndex =>
    { name := "AddIndex", pattern := 0xF01E, mnemonic := ['A', 'D', 'D']
      slots := [.keyword .index, .field .x] }
  | .ldGlyph =>
    { name := "SetChar", pattern := 0xF029, mnemonic := ['L', 'D']
      slots := [.keyword .glyph, .field .x] }
  | .drw =>
    { name := "Draw", pattern := 0xD000, mnemonic := ['D', 'R', 'W']
      slots := [.field .x, .field .y, .field .n] }
  | .skp =>
    { name := "SkipKeyPressed", pattern := 0xE09E, mnemonic := ['S', 'K', 'P']
      slots := [.field .x] }
  | .sknp =>
    { name := "SkipKeyNotPressed", pattern := 0xE0A1, mnemonic := ['S', 'K', 'N', 'P']
      slots := [.field .x] }
  | .waitKey =>
    { name := "WaitForKey", pattern := 0xF00A, mnemonic := ['L', 'D']
      slots := [.field .x, .keyword .key] }
  | .getDelay =>
    { name := "GetDelay", pattern := 0xF007, mnemonic := ['L', 'D']
      slots := [.field .x, .keyword .delay] }
  | .setDelay =>
    { name := "SetDelay", pattern := 0xF015, mnemonic := ['L', 'D']
      slots := [.keyword .delay, .field .x] }
  | .setSound =>
    { name := "SetSound", pattern := 0xF018, mnemonic := ['L', 'D']
      slots := [.keyword .sound, .field .x] }
  | .storeDigits =>
    { name := "BCD", pattern := 0xF033, mnemonic := ['L', 'D']
      slots := [.keyword .digits, .field .x] }
  | .storeRegs =>
    { name := "RegDump", pattern := 0xF055, mnemonic := ['L', 'D']
      slots := [.keyword .memory, .field .x] }
  | .loadRegs =>
    { name := "RegLoad", pattern := 0xF065, mnemonic := ['L', 'D']
      slots := [.field .x, .keyword .memory] }

/-- The opcodes with their rows of the table. -/
def table : List (Opcode × Format) := all.map fun op => (op, op.format)

/-- Every opcode is in the table. -/
theorem mem_all (op : Opcode) : op ∈ all := by
  cases op <;> decide

end Opcode

namespace Instruction

/-- The operands of an instruction are the fields of its format, in the same order. -/
theorem map_fst_operands (i : Instruction) : i.operands.map Prod.fst = i.opcode.format.fields := by
  cases i <;> rfl

/-- An instruction is what its opcode and its operands build. -/
theorem build_operand (i : Instruction) : i.opcode.build i.operand = i := by
  have hyx : (Field.y == Field.x) = false := rfl
  have hnx : (Field.n == Field.x) = false := rfl
  have hny : (Field.n == Field.y) = false := rfl
  have hnnx : (Field.nn == Field.x) = false := rfl
  cases i <;>
    simp only [opcode, Opcode.build, operand, operands, List.lookup_cons, beq_self_eq_true, hyx,
      hnx, hny, hnnx, Option.getD_some, fourBits_val, eightBits_val, twelveBits_val]

end Instruction

end Chip8
