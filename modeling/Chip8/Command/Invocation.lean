/-
# Invocations

What a list of arguments asks for: one of the three commands with its settings and its file, and
the settings that hold for every command.
-/

import Chip8.Command.Options

namespace Chip8.Command

/-- What a command does with its file. -/
inductive Task where
  | assemble (settings : AssembleSettings)
  | disassemble (settings : DisassembleSettings)
  | run (settings : RunSettings)
  deriving DecidableEq, Repr

/-- What a list of arguments asks for. -/
structure Invocation where
  globals : Globals
  task : Task
  /-- the file that the task works on -/
  input : Text
  deriving DecidableEq, Repr

/-- The names of the commands. -/
def commandNames : List Text := ["asm", "disasm", "run"].map String.toList

/-- Reads the arguments of a command: the task, its file and what is left over. -/
def readTask (name : Text) (arguments : List Text) :
    Except Halt (Task × Text × List Text) :=
  match String.ofList name with
  | "asm" => do
    let (settings, rest) ←
      assembleGrammar.readWithOperand AssembleSettings.apply {} arguments
    return (.assemble settings, rest)
  | "disasm" => do
    let (settings, rest) ←
      disassembleGrammar.readWithOperand DisassembleSettings.apply {} arguments
    return (.disassemble settings, rest)
  | "run" => do
    let (settings, rest) ← runGrammar.readWithOperand RunSettings.apply {} arguments
    return (.run settings, rest)
  | _ => .error (mainGrammar.misuse (.unknownCommand name commandNames))

/-- Nothing may be left over. -/
def refuseExtras : List Text → Except Halt Unit
  | [] => .ok ()
  | extras => .error (mainGrammar.misuse (.unrecognized extras))

/-- The invocation that a list of arguments asks for. Without a command it asks for help. -/
def Invocation.ofArguments (arguments : List Text) : Except Halt Invocation := do
  let reading ← mainGrammar.read Globals.apply {} arguments
  match reading.operand with
  | none =>
    refuseExtras reading.extras
    throw (.help mainGrammar.help)
  | some (name, rest) =>
    let (task, input, extras) ← readTask name rest
    refuseExtras (reading.extras ++ extras)
    return { globals := reading.settings, task, input }

end Chip8.Command
