/-
# Usage texts

What a grammar tells about itself: a usage line in front of an error, and a page of help on
request.
-/

import Chip8.Command.Grammar

namespace Chip8.Command

/-- The option as a usage line shows it. -/
def OptionForm.usage {κ : Type} (form : OptionForm κ) : Text :=
  let value := match form.value with
    | some name => ' ' :: name
    | none => []
  ['['] ++ form.names.headD [] ++ value ++ [']']

/-- The option as a page of help shows it. -/
def OptionForm.help {κ : Type} (form : OptionForm κ) : Text :=
  let value := match form.value with
    | some name => ' ' :: name
    | none => []
  Text.join [',', ' '] (form.names.map (· ++ value))

namespace Grammar

variable {κ : Type}

/-- The usage line. -/
def usage (g : Grammar κ) : Text :=
  "usage: ".toList ++ Text.join [' '] (g.program :: g.options.map OptionForm.usage) ++
    [' '] ++ g.operand ++ (if g.takesRest then " ...".toList else []) ++ ['\n']

/-- The width of the column of names in a page of help. -/
def helpColumn : Nat := 24

/-- A row of a page of help. -/
def helpRow (name : Text) (summary : String) : Text :=
  [' ', ' '] ++ Text.padRight helpColumn name ++ summary.toList ++ ['\n']

/-- The page of help. -/
def help (g : Grammar κ) : Text :=
  g.usage ++ ['\n'] ++ g.summary.toList ++ ['\n', '\n'] ++ helpRow g.operand g.operandSummary ++
    g.options.flatMap fun form => helpRow form.help form.summary

end Grammar

end Chip8.Command
