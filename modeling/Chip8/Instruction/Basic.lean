/-
# Instructions

The thirty-five instructions of the machine. An `Instruction` carries its operands in types of the
width that the instruction word has for them, so an instruction with an operand out of range
cannot be written down. An `Opcode` is an instruction without its operands.

`Opcode.build` and `Instruction.operands` go between the two: an opcode and a value for each of
its fields make an instruction, and an instruction gives its fields back.
-/

import Chip8.Text.Numeral

namespace Chip8

/-- The number of a register, `V0` to `VF`. -/
abbrev Reg := Fin 16

/-- Four bits of an instruction word. -/
abbrev Nibble := Fin 16

/-- Eight bits of an instruction word. -/
abbrev Byte := Fin 256

/-- Twelve bits of an instruction word. -/
abbrev Address := Fin 4096

/-- A number cut to its lowest four bits. -/
def fourBits (n : Nat) : Fin 16 := Fin.ofNat 16 n

/-- A number cut to its lowest eight bits. -/
def eightBits (n : Nat) : Fin 256 := Fin.ofNat 256 n

/-- A number cut to its lowest twelve bits. -/
def twelveBits (n : Nat) : Fin 4096 := Fin.ofNat 4096 n

/-- A number of four bits is not changed by cutting. -/
@[simp] theorem fourBits_val (x : Fin 16) : fourBits x.val = x :=
  Fin.ext (Nat.mod_eq_of_lt x.isLt)

/-- A number of eight bits is not changed by cutting. -/
@[simp] theorem eightBits_val (x : Fin 256) : eightBits x.val = x :=
  Fin.ext (Nat.mod_eq_of_lt x.isLt)

/-- A number of twelve bits is not changed by cutting. -/
@[simp] theorem twelveBits_val (x : Fin 4096) : twelveBits x.val = x :=
  Fin.ext (Nat.mod_eq_of_lt x.isLt)

/-- The operand fields of an instruction word. -/
inductive Field where
  /-- the first register -/
  | x
  /-- the second register -/
  | y
  /-- a number of four bits -/
  | n
  /-- a number of eight bits -/
  | nn
  /-- an address -/
  | nnn
  deriving DecidableEq, Repr

namespace Field

/-- The place of the field's lowest bit. -/
def shift : Field → Nat
  | .x => 8
  | .y => 4
  | .n | .nn | .nnn => 0

/-- The number of bits in the field. -/
def width : Field → Nat
  | .x | .y | .n => 4
  | .nn => 8
  | .nnn => 12

/-- The number of values that the field can hold. -/
def limit (f : Field) : Nat := 1 <<< f.width

/-- What a one in the field adds to the word. -/
def weight (f : Field) : Nat := 1 <<< f.shift

/-- The field holds the number of a register. -/
def isRegister : Field → Bool
  | .x | .y => true
  | _ => false

/-- The name of the field in messages. -/
def name : Field → String
  | .x => "x"
  | .y => "y"
  | .n => "n"
  | .nn => "nn"
  | .nnn => "nnn"

end Field

/-- The kinds of instruction, in the order of the instruction table. -/
inductive Opcode where
  | nop | cls | ret | jp | call | jpOffset
  | seByte | sneByte | seReg | sneReg
  | ldByte | addByte | ldReg | or | and | xor | addReg | sub | shr | subn | shl | rnd
  | ldIndex | addIndex | ldGlyph
  | drw
  | skp | sknp | waitKey
  | getDelay | setDelay | setSound
  | storeDigits | storeRegs | loadRegs
  deriving DecidableEq, Repr

/-- An instruction with its operands. -/
inductive Instruction where
  /-- does nothing -/
  | nop
  /-- clears the screen -/
  | cls
  /-- returns from a subroutine -/
  | ret
  /-- jumps -/
  | jp (nnn : Address)
  /-- calls a subroutine -/
  | call (nnn : Address)
  /-- jumps to an address plus `V0` -/
  | jpOffset (nnn : Address)
  /-- skips if the register equals the byte -/
  | seByte (x : Reg) (nn : Byte)
  /-- skips if the register differs from the byte -/
  | sneByte (x : Reg) (nn : Byte)
  /-- skips if two registers are equal -/
  | seReg (x y : Reg)
  /-- skips if two registers differ -/
  | sneReg (x y : Reg)
  /-- sets a register to a byte -/
  | ldByte (x : Reg) (nn : Byte)
  /-- adds a byte, without a flag -/
  | addByte (x : Reg) (nn : Byte)
  /-- copies a register -/
  | ldReg (x y : Reg)
  /-- bitwise or -/
  | or (x y : Reg)
  /-- bitwise and -/
  | and (x y : Reg)
  /-- bitwise exclusive or -/
  | xor (x y : Reg)
  /-- adds with carry -/
  | addReg (x y : Reg)
  /-- subtracts the second register from the first -/
  | sub (x y : Reg)
  /-- shifts right by one -/
  | shr (x : Reg)
  /-- subtracts the first register from the second -/
  | subn (x y : Reg)
  /-- shifts left by one -/
  | shl (x : Reg)
  /-- sets a register to a random byte under a mask -/
  | rnd (x : Reg) (nn : Byte)
  /-- sets the index -/
  | ldIndex (nnn : Address)
  /-- adds a register to the index -/
  | addIndex (x : Reg)
  /-- points the index at the glyph of a hexadecimal digit -/
  | ldGlyph (x : Reg)
  /-- draws a sprite of `n` rows -/
  | drw (x y : Reg) (n : Nibble)
  /-- skips if a key is down -/
  | skp (x : Reg)
  /-- skips if a key is up -/
  | sknp (x : Reg)
  /-- waits for a key -/
  | waitKey (x : Reg)
  /-- reads the delay timer -/
  | getDelay (x : Reg)
  /-- sets the delay timer -/
  | setDelay (x : Reg)
  /-- sets the sound timer -/
  | setSound (x : Reg)
  /-- stores the decimal digits of a register at the index -/
  | storeDigits (x : Reg)
  /-- stores the registers up to `x` at the index -/
  | storeRegs (x : Reg)
  /-- loads the registers up to `x` from the index -/
  | loadRegs (x : Reg)
  deriving DecidableEq, Repr

namespace Instruction

/-- The kind of the instruction. -/
def opcode : Instruction → Opcode
  | .nop => .nop
  | .cls => .cls
  | .ret => .ret
  | .jp _ => .jp
  | .call _ => .call
  | .jpOffset _ => .jpOffset
  | .seByte .. => .seByte
  | .sneByte .. => .sneByte
  | .seReg .. => .seReg
  | .sneReg .. => .sneReg
  | .ldByte .. => .ldByte
  | .addByte .. => .addByte
  | .ldReg .. => .ldReg
  | .or .. => .or
  | .and .. => .and
  | .xor .. => .xor
  | .addReg .. => .addReg
  | .sub .. => .sub
  | .shr _ => .shr
  | .subn .. => .subn
  | .shl _ => .shl
  | .rnd .. => .rnd
  | .ldIndex _ => .ldIndex
  | .addIndex _ => .addIndex
  | .ldGlyph _ => .ldGlyph
  | .drw .. => .drw
  | .skp _ => .skp
  | .sknp _ => .sknp
  | .waitKey _ => .waitKey
  | .getDelay _ => .getDelay
  | .setDelay _ => .setDelay
  | .setSound _ => .setSound
  | .storeDigits _ => .storeDigits
  | .storeRegs _ => .storeRegs
  | .loadRegs _ => .loadRegs

/-- The operand fields with their values, in the order in which they are declared. -/
def operands : Instruction → List (Field × Nat)
  | .nop | .cls | .ret => []
  | .jp nnn | .call nnn | .jpOffset nnn | .ldIndex nnn => [(.nnn, nnn)]
  | .seByte x nn | .sneByte x nn | .ldByte x nn | .addByte x nn | .rnd x nn => [(.x, x), (.nn, nn)]
  | .seReg x y | .sneReg x y | .ldReg x y | .or x y | .and x y | .xor x y | .addReg x y | .sub x y
  | .subn x y => [(.x, x), (.y, y)]
  | .drw x y n => [(.x, x), (.y, y), (.n, n)]
  | .shr x | .shl x | .addIndex x | .ldGlyph x | .skp x | .sknp x | .waitKey x | .getDelay x
  | .setDelay x | .setSound x | .storeDigits x | .storeRegs x | .loadRegs x => [(.x, x)]

/-- The value of an operand field; a field that the instruction does not have counts as zero. -/
def operand (i : Instruction) (f : Field) : Nat := (i.operands.lookup f).getD 0

/-- Every instruction takes two bytes. -/
def size : Nat := 2

end Instruction

/-- The instruction with the given opcode and field values, each value cut to its width. -/
def Opcode.build (op : Opcode) (value : Field → Nat) : Instruction :=
  let x : Reg := fourBits (value .x)
  let y : Reg := fourBits (value .y)
  let n : Nibble := fourBits (value .n)
  let nn : Byte := eightBits (value .nn)
  let nnn : Address := twelveBits (value .nnn)
  match op with
  | .nop => .nop
  | .cls => .cls
  | .ret => .ret
  | .jp => .jp nnn
  | .call => .call nnn
  | .jpOffset => .jpOffset nnn
  | .seByte => .seByte x nn
  | .sneByte => .sneByte x nn
  | .seReg => .seReg x y
  | .sneReg => .sneReg x y
  | .ldByte => .ldByte x nn
  | .addByte => .addByte x nn
  | .ldReg => .ldReg x y
  | .or => .or x y
  | .and => .and x y
  | .xor => .xor x y
  | .addReg => .addReg x y
  | .sub => .sub x y
  | .shr => .shr x
  | .subn => .subn x y
  | .shl => .shl x
  | .rnd => .rnd x nn
  | .ldIndex => .ldIndex nnn
  | .addIndex => .addIndex x
  | .ldGlyph => .ldGlyph x
  | .drw => .drw x y n
  | .skp => .skp x
  | .sknp => .sknp x
  | .waitKey => .waitKey x
  | .getDelay => .getDelay x
  | .setDelay => .setDelay x
  | .setSound => .setSound x
  | .storeDigits => .storeDigits x
  | .storeRegs => .storeRegs x
  | .loadRegs => .loadRegs x

/-- Building keeps the opcode. -/
@[simp] theorem Opcode.opcode_build (op : Opcode) (value : Field → Nat) :
    (op.build value).opcode = op := by
  cases op <;> rfl

end Chip8
