/-
# Traces

A trace shows every instruction that was attempted while tracing was on, with the registers before
it, and every failure that ended a run.
-/

import Chip8.Instruction.Printer
import Chip8.Registers

namespace Chip8

/-- An entry of a trace. -/
inductive TraceEntry where
  /-- the word at the program counter is about to be executed -/
  | attempt (word : Nat) (registers : Registers)
  /-- a run ended because the last instruction cannot be executed -/
  | failure (fault : Fault)
  deriving DecidableEq, Repr

namespace TraceEntry

/-- The width of the column of instructions. -/
def instructionColumn : Nat := 16

/-- The entry as a line. -/
def text : TraceEntry → Text
  | .attempt word registers =>
    '$' :: Text.hexSigned 3 registers.pc ++ [':', ' '] ++ Text.hexPadded 4 word ++ [' ', ' '] ++
      Text.padRight instructionColumn (decode word).text ++ [' '] ++ registers.text
  | .failure fault => "  ERROR: ".toList ++ fault.message.toList

end TraceEntry

end Chip8
