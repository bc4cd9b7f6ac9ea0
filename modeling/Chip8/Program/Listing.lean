/-
# Program listings

A listing shows every line of a program with its address and bytes, and every label in front of
the line that it marks. Labels at the end of the program follow the last line.
-/

import Chip8.Program.Basic

namespace Chip8.Program

/-- The width of the column of bytes. -/
def byteColumn : Nat := 12

/-- The bytes of a line as the listing shows them; what does not fit is cut and marked by dots. -/
def bytesText (bytes : List UInt8) : Text :=
  let shown := Text.hexBytes bytes
  if shown.length > byteColumn then shown.take (byteColumn - 3) ++ ['.', '.', '.'] else shown

/-- The row of a label. -/
def labelRow (label : Label) : Text :=
  List.replicate (6 + 2 + byteColumn + 2) ' ' ++ label ++ [':']

/-- The row of a line at an address. -/
def lineRow (address : Int) (l : Line) : Text :=
  ['0', 'x'] ++ Text.hexSigned 3 address ++ [' ', ' ', ' '] ++
    Text.padRight byteColumn (bytesText l.bytes) ++ [' ', ' '] ++ l.text

/-- Labels by the indices that they mark, those of an index in the order of their definition. -/
abbrev LabelGroups := List (Int × List Label)

/-- One more label that marks an index. -/
def LabelGroups.add (index : Int) (label : Label) : LabelGroups → LabelGroups
  | [] => [(index, [label])]
  | group :: rest =>
    if group.1 == index then (group.1, group.2 ++ [label]) :: rest
    else group :: LabelGroups.add index label rest

/-- The labels of a table by the indices that they mark. -/
def LabelGroups.ofTable (table : List (Label × Int)) : LabelGroups :=
  table.foldl (fun groups (label, index) => groups.add index label) []

/-- The labels that mark an index. -/
def LabelGroups.at (groups : LabelGroups) (index : Nat) : List Label :=
  (groups.lookup (index : Int)).getD []

/-- The rows of a line: its labels and, behind them, the line. -/
def rowsOf (p : Program) (groups : LabelGroups) (index : Nat) (l : Line) : List Text :=
  (groups.at index).map labelRow ++ [lineRow (p.addressOf index) l]

/-- The rows of the program: its lines with their labels, and the labels of its end. -/
def listingRows (p : Program) : List Text :=
  let groups := LabelGroups.ofTable p.labels
  (p.lines.zipIdx.flatMap fun (l, index) => p.rowsOf groups index l) ++
    (groups.at p.lines.length).map labelRow

/-- The two lines at the head of a listing. -/
def listingHead : List Text :=
  ["  ADDR  BYTES         SOURCE".toList, List.replicate 48 '-']

/-- The listing of the program. -/
def listing (p : Program) : Text :=
  Text.join ['\n'] (listingHead ++ p.listingRows)

end Chip8.Program
