/-
# Reading a command line

The items of a command line are taken in one after the other, each option by the settings that it
changes. Reading ends early with a `Halt`: help or the version is asked for, or something is
refused. What comes first decides.
-/

import Chip8.Command.Usage

namespace Chip8.Command

/-- Why there is no invocation. -/
inductive Halt where
  /-- a page of help is asked for -/
  | help (page : Text)
  /-- the version is asked for -/
  | version
  /-- the arguments are refused by the program with this name and usage line -/
  | misuse (program usage : Text) (error : UsageError)
  deriving DecidableEq, Repr

/-- Why an option is not taken into the settings. -/
inductive Interruption where
  | help
  | version
  | badValue (reason : BadValue)
  deriving DecidableEq, Repr

/-- The settings that the items made, with the operand and the arguments that are left over. -/
structure Reading (σ : Type) where
  settings : σ
  operand : Option (Text × List Text) := none
  extras : List Text := []

namespace Grammar

variable {κ σ : Type}

/-- The halt on misuse of this grammar. -/
def misuse (g : Grammar κ) (error : UsageError) : Halt := .misuse g.program g.usage error

/-- The halt that an option brings about. -/
def interrupt (g : Grammar κ) (form : OptionForm κ) : Interruption → Halt
  | .help => .help g.help
  | .version => .version
  | .badValue reason => g.misuse (.badValue form.label reason)

/-- Takes the items in, up to the first that halts. -/
def take (g : Grammar κ) (apply : κ → Given Text → σ → Except Interruption σ) :
    List (Item κ) → Reading σ → Except Halt (Reading σ)
  | [], reading => .ok reading
  | .failure error :: _, _ => .error (g.misuse error)
  | .extra argument :: rest, reading =>
    g.take apply rest { reading with extras := reading.extras ++ [argument] }
  | .operand word others :: rest, reading =>
    g.take apply rest { reading with operand := some (word, others) }
  | .option form given :: rest, reading =>
    match apply form.key given reading.settings with
    | .ok settings => g.take apply rest { reading with settings }
    | .error interruption => .error (g.interrupt form interruption)

/-- Reads the arguments, starting with given settings. -/
def read (g : Grammar κ) (apply : κ → Given Text → σ → Except Interruption σ) (initial : σ)
    (arguments : List Text) : Except Halt (Reading σ) :=
  g.take apply (g.items arguments) { settings := initial }

/-- Reads the arguments of a grammar whose operand must be there. -/
def readWithOperand (g : Grammar κ) (apply : κ → Given Text → σ → Except Interruption σ)
    (initial : σ) (arguments : List Text) : Except Halt (σ × Text × List Text) := do
  let reading ← g.read apply initial arguments
  match reading.operand with
  | some (word, _) => return (reading.settings, word, reading.extras)
  | none => throw (g.misuse (.missingOperand g.operand))

end Grammar

end Chip8.Command
