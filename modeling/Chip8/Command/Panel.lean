/-
# A console with frames

The console that a session has if it is given no other: panels stand in a rounded frame, tables
between rules, and names of emoji are replaced.
-/

import Chip8.Command.Console
import Chip8.Text.Emoji

namespace Chip8.Command

/-- The text in the middle of a line of the given width, filled up with a character. Of an odd
rest the right side gets more. -/
def centred (fill : Char) (width : Nat) (t : Text) : Text :=
  let rest := width - t.length
  List.replicate (rest / 2) fill ++ t ++ List.replicate (rest - rest / 2) fill

/-- Rows in a frame as wide as the longest of them. -/
def framedPanel (title : Text) (rows : List Text) : List Text :=
  let width := (rows.map List.length).foldl max 0
  let body := rows.map fun row => '│' :: Text.padRight width row ++ ['│']
  ('╭' :: centred '─' width (' ' :: title ++ [' ']) ++ ['╮']) :: body ++
    ['╰' :: List.replicate width '─' ++ ['╯']]

/-- The width of a cell between its rules. -/
def cellWidth : Nat := 7

/-- A horizontal rule of a table with so many columns. -/
def tableRule (columns : Nat) (left middle right : Char) : Text :=
  left :: Text.join [middle] (List.replicate columns (List.replicate cellWidth '─')) ++ [right]

/-- A row of a table, its cells at the right. -/
def tableRow (cells : List Text) : Text :=
  '│' :: Text.join ['│'] (cells.map fun t => Text.padLeft (cellWidth - 1) t ++ [' ']) ++ ['│']

/-- A table between rules, with the further cells in a line below it. -/
def ruledTable (title : Text) (rows : List (List Text)) (below : List Text) : List Text :=
  let columns := (rows.map List.length).foldl max 0
  let width := columns * (cellWidth + 1) + 1
  centred ' ' width title :: tableRule columns '┌' '┬' '┐' :: rows.map tableRow ++
    [tableRule columns '└' '┴' '┘', Text.padRight width (Text.join [' ', ' '] below)]

/-- The console with frames and rules. -/
def Console.framed : Console :=
  { text := Text.withEmoji, panel := framedPanel, table := ruledTable }

end Chip8.Command
