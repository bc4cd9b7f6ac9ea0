/-
# Outcomes

How the program ends: with an exit status, or by breaking off before it has one.
-/

import Chip8.Command.Files
import Chip8.Command.Invocation
import Chip8.Instruction.Reader

namespace Chip8.Command

/-- Why the program breaks off. -/
inductive Breakdown where
  /-- a numeral is beyond the digit limit -/
  | limit (bound : DigitLimit)
  /-- a file is needed whose path can name none -/
  | unnameable (path : Text)
  /-- the log file cannot be started -/
  | noLog (error : FileError)
  /-- the value of an option of `run` is needed and has been left blank -/
  | blank (option : RunOption)
  deriving DecidableEq, Repr

/-- The label of an option of `run`. -/
def RunOption.label (option : RunOption) : Text :=
  match runGrammar.options.find? (·.key == option) with
  | some form => form.label
  | none => []

/-- The wording of the cause. -/
def Breakdown.message : Breakdown → Text
  | .limit bound => bound.message.toList
  | .unnameable path => "no file can have the name ".toList ++ Text.quoted path
  | .noLog error => error.message
  | .blank option => "option ".toList ++ option.label ++ " has no value".toList

/-- How the program ends. -/
inductive Outcome where
  /-- with an exit status -/
  | status (code : Nat)
  /-- without one -/
  | broken (cause : Breakdown)
  deriving DecidableEq, Repr

/-- The value of an option of `run` at the moment it is needed. -/
def RunOption.need {α : Type} (option : RunOption) : Given α → Except Breakdown α
  | .value a => .ok a
  | .blank => .error (.blank option)

end Chip8.Command
