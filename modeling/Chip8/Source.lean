/-
# Source text

A source is a text of lines. What follows a `#` on a line is a comment, and `;` ends a statement.
`Source.statements` is the view of a source that the assembler works on: its trimmed, non-empty
statements in order, each with the number of its line.
-/

import Chip8.Text.Basic

namespace Chip8

/-- A statement of a source, with its line counted from one. -/
structure Statement where
  line : Nat
  text : Text
  deriving DecidableEq, Repr

namespace Source

/-- The line without its comment. -/
def dropComment (line : Text) : Text := line.takeWhile (· != '#')

/-- The statements of one line. -/
def lineStatements (line : Text) : List Text :=
  ((Text.cut (· == ';') (dropComment line)).map Text.trim).filter (!·.isEmpty)

/-- The statements of a source. -/
def statements (source : Text) : List Statement :=
  (Text.lines source).zipIdx.flatMap fun (line, index) =>
    (lineStatements line).map fun text => { line := index + 1, text }

end Source

end Chip8
