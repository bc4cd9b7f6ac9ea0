/-
# Steps of the machine

A step fetches the word at the program counter, decodes it and executes the instruction. Every
instruction leaves the program counter at the next word, except those that set it themselves. A
return goes on behind the call that it returns to, because a call leaves its own address on the
stack.

Results are stored before flags, and operands are read before anything is stored. An instruction
that cannot be executed leaves the machine as it was.
-/

import Chip8.Arithmetic
import Chip8.Machine.Basic

namespace Chip8

/-- The address of the following instruction. -/
def followingAddress (address : Int) : Int := (address + 2) % 4096

/-- The first address of the glyph of a digit. -/
def glyphAddress (value : Int) : Int := value % 16 * glyphSize

namespace Registers

/-- The program counter moves on to the next instruction. -/
def advance (r : Registers) : Registers := { r with pc := followingAddress r.pc }

/-- The program counter moves on, and passes over one more instruction if the condition holds. -/
def advanceSkipping (r : Registers) (skip : Bool) : Registers :=
  if skip then r.advance.advance else r.advance

/-- The registers up to `last` take the values of successive bytes. -/
def loadFrom (r : Registers) (m : Memory) (last : Reg) : Registers :=
  { r with v := Vector.ofFn fun x : Reg =>
      if x ≤ last then ((m.read (r.index + x)).toNat : Int) else r.get x }

/-- The values of the registers up to `last`, each by its lowest byte. -/
def bytesUpTo (r : Registers) (last : Reg) : List UInt8 :=
  (r.v.toList.take (last + 1)).map UInt8.ofInt

end Registers

namespace Machine

variable {ρ : Type} [RandomSource ρ]

/-- Replaces the registers and moves the program counter on. -/
def withRegisters (m : Machine ρ) (r : Registers) : Machine ρ := { m with registers := r.advance }

/-- Moves the program counter on, over one more instruction if the condition holds. -/
def skipIf (m : Machine ρ) (skip : Bool) : Machine ρ :=
  { m with registers := m.registers.advanceSkipping skip }

/-- Stores bytes at the index and moves the program counter on. -/
def storeAtIndex (m : Machine ρ) (bytes : List UInt8) : Machine ρ :=
  { m with
    memory := m.memory.load m.registers.index bytes
    registers := m.registers.advance }

/-- Draws the sprite at the index, with the collision as flag, and moves the program counter on. -/
def drawSprite (m : Machine ρ) (x y : Reg) (n : Nibble) : Except Fault (Machine ρ) :=
  let r := m.registers
  match m.screen.draw (r.get x) (r.get y) (m.memory.readBlock r.index n) with
  | .ok (screen, collision) =>
    .ok { m with screen, registers := (r.setFlag collision).advance }
  | .error reason => .error (.undrawn reason)

/-- The machine after an instruction, or the reason why it cannot be executed. -/
def execute (m : Machine ρ) (i : Instruction) : Except Fault (Machine ρ) :=
  let r := m.registers
  match i with
  | .nop => .ok (m.withRegisters r)
  | .cls => .ok { m with screen := Display.blank 64 32, registers := r.advance }
  | .ret =>
    match r.pop with
    | .ok (address, popped) => .ok (m.withRegisters { popped with pc := address })
    | .error fault => .error fault
  | .jp nnn => .ok { m with registers := { r with pc := nnn } }
  | .call nnn =>
    match r.push r.pc with
    | .ok pushed => .ok { m with registers := { pushed with pc := nnn } }
    | .error fault => .error fault
  | .jpOffset nnn =>
    .ok { m with registers := { r with pc := (r.get Registers.offsetReg + nnn) % 4096 } }
  | .seByte x nn => .ok (m.skipIf (r.get x == nn))
  | .sneByte x nn => .ok (m.skipIf (r.get x != nn))
  | .seReg x y => .ok (m.skipIf (r.get x == r.get y))
  | .sneReg x y => .ok (m.skipIf (r.get x != r.get y))
  | .ldByte x nn => .ok (m.withRegisters (r.set x nn))
  | .addByte x nn => .ok (m.withRegisters (r.set x (Arithmetic.addWrapping (r.get x) nn)))
  | .ldReg x y => .ok (m.withRegisters (r.set x (r.get y)))
  | .or x y => .ok (m.withRegisters (r.set x (Arithmetic.bitOr (r.get x) (r.get y))))
  | .and x y => .ok (m.withRegisters (r.set x (Arithmetic.bitAnd (r.get x) (r.get y))))
  | .xor x y => .ok (m.withRegisters (r.set x (Arithmetic.bitXor (r.get x) (r.get y))))
  | .addReg x y =>
    .ok (m.withRegisters (r.setWithFlag x (Arithmetic.addCarry (r.get x) (r.get y))))
  | .sub x y =>
    .ok (m.withRegisters (r.setWithFlag x (Arithmetic.subNoBorrow (r.get x) (r.get y))))
  | .shr x => .ok (m.withRegisters (r.setWithFlag x (Arithmetic.shiftRight (r.get x))))
  | .subn x y =>
    .ok (m.withRegisters (r.setWithFlag x (Arithmetic.subNoBorrow (r.get y) (r.get x))))
  | .shl x => .ok (m.withRegisters (r.setWithFlag x (Arithmetic.shiftLeft (r.get x))))
  | .rnd x nn =>
    let (b, random) := RandomSource.next m.random
    .ok { m with random, registers := (r.set x (Arithmetic.bitAnd b.toNat nn)).advance }
  | .ldIndex nnn => .ok (m.withRegisters { r with index := nnn })
  | .addIndex x => .ok (m.withRegisters { r with index := (r.index + r.get x) % 65536 })
  | .ldGlyph x => .ok (m.withRegisters { r with index := glyphAddress (r.get x) })
  | .drw x y n => m.drawSprite x y n
  | .skp x => .ok (m.skipIf (m.keypad.isPressed (r.get x)))
  | .sknp x => .ok (m.skipIf (!m.keypad.isPressed (r.get x)))
  | .waitKey x => .ok (m.withRegisters { r with keyWait := some x })
  | .getDelay x => .ok (m.withRegisters (r.set x m.timers.delay.toNat))
  | .setDelay x => .ok { m with timers := m.timers.setDelay (r.get x), registers := r.advance }
  | .setSound x => .ok { m with timers := m.timers.setSound (r.get x), registers := r.advance }
  | .storeDigits x =>
    .ok (m.storeAtIndex ((Arithmetic.decimalDigits (r.get x)).map UInt8.ofNat))
  | .storeRegs x => .ok (m.storeAtIndex (r.bytesUpTo x))
  | .loadRegs x => .ok (m.withRegisters (r.loadFrom m.memory x))

/-- The instruction at the program counter. -/
def current (m : Machine ρ) : Instruction := m.memory.instructionAt m.pc

/-- What a step comes to. -/
inductive Step (ρ : Type) where
  /-- a register waits for a key, and nothing happens -/
  | waiting
  /-- an instruction has been executed -/
  | executed (after : Machine ρ)
  /-- the instruction cannot be executed -/
  | failed (fault : Fault)

/-- One step of the machine. -/
def step (m : Machine ρ) : Step ρ :=
  if m.waiting then .waiting
  else match m.execute m.current with
    | .ok after => .executed after
    | .error fault => .failed fault

end Machine

end Chip8
