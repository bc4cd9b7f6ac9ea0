/-
# Misuse of the command line

Everything that can be wrong with a list of arguments, and how it is told to the user.
-/

import Chip8.Command.Value

namespace Chip8.Command

/-- Why a list of arguments is refused. Options are given by the label that messages use. -/
inductive UsageError where
  /-- an abbreviation fits several names -/
  | ambiguous (argument : Text) (names : List Text)
  /-- an option lacks its value -/
  | missingValue (option : Text)
  /-- an option that takes no value is given one -/
  | unexpectedValue (option value : Text)
  /-- the value of an option is refused -/
  | badValue (option : Text) (reason : BadValue)
  /-- no command has this name -/
  | unknownCommand (name : Text) (known : List Text)
  /-- the operand is missing -/
  | missingOperand (name : Text)
  /-- arguments are left over -/
  | unrecognized (arguments : List Text)
  deriving DecidableEq, Repr

namespace UsageError

/-- A complaint about one argument. -/
def about (name complaint : Text) : Text := "argument ".toList ++ name ++ [':', ' '] ++ complaint

/-- The wording of the error. -/
def message : UsageError → Text
  | .ambiguous argument names =>
    "ambiguous option: ".toList ++ argument ++ " could match ".toList ++
      Text.join [',', ' '] names
  | .missingValue option => about option "expected one argument".toList
  | .unexpectedValue option value =>
    about option ("ignored explicit argument ".toList ++ Text.quoted value)
  | .badValue option reason => about option reason.message
  | .unknownCommand name known =>
    about "command".toList ("invalid choice: ".toList ++ Text.quoted name ++
      " (choose from ".toList ++ Text.join [',', ' '] (known.map Text.quoted) ++ [')'])
  | .missingOperand name => "the following arguments are required: ".toList ++ name
  | .unrecognized arguments =>
    "unrecognized arguments: ".toList ++ Text.join [' '] arguments

end UsageError

end Chip8.Command
