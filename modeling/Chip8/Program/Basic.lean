/-
# Programs

A program is a list of lines, each an instruction or a block of data, together with the table of
labels. A label marks a line by its index; its address is the load address plus the sizes of all
lines before that one. A jump or call may refer to a label, and then stands with a placeholder
address until the reference is resolved.
-/

import Chip8.Instruction.Printer
import Chip8.Text.Quoted

namespace Chip8

/-- A line of a program. -/
inductive Line where
  | instruction (i : Instruction)
  | data (bytes : List UInt8)
  deriving DecidableEq, Repr

namespace Line

/-- The number of bytes that the line takes. -/
def size : Line → Nat
  | .instruction _ => Instruction.size
  | .data bytes => bytes.length

/-- The bytes of the line. -/
def bytes : Line → List UInt8
  | .instruction i => i.bytes
  | .data bytes => bytes

/-- A byte in a data statement. -/
def dataByteText (b : UInt8) : Text := '0' :: 'x' :: Text.hexByte b

/-- The line as a statement. -/
def text : Line → Text
  | .instruction i => i.text
  | .data bytes => ['B', 'Y', 'T', 'E', 'S', ' '] ++ Text.join [' '] (bytes.map dataByteText)

/-- The line as messages about the program itself show it: the name of its kind and its fields. -/
def description : Line → Text
  | .instruction i =>
    let field := fun ((f, value) : Field × Nat) => f.name.toList ++ '=' :: Text.decimalNat value
    i.opcode.format.name.toList ++ '(' :: Text.join [',', ' '] (i.operands.map field) ++ [')']
  | .data bytes => "Data(data=".toList ++ Text.quotedBytes bytes ++ [')']

/-- The number of bytes that lines take together. -/
def totalSize : List Line → Nat
  | [] => 0
  | l :: rest => l.size + totalSize rest

/-- The size of a line is the number of its bytes. -/
@[simp] theorem length_bytes (l : Line) : l.bytes.length = l.size := by
  cases l <;> rfl

/-- The size of lines is the number of their bytes. -/
theorem length_flatMap_bytes (ls : List Line) : (ls.flatMap bytes).length = totalSize ls := by
  induction ls with
  | nil => rfl
  | cons l rest ih => rw [List.flatMap_cons, List.length_append, length_bytes, ih, totalSize]

end Line

/-- The name of a label, in lower case. -/
abbrev Label := Text

/-- A line in its program: the label that its address refers to, if any, and its source line. -/
structure Entry where
  line : Line
  reference : Option Label
  sourceLine : Int
  deriving DecidableEq, Repr

/-- The address at which ROMs are loaded. -/
def programStart : Int := 0x200

/-- The greatest address that an instruction can name. -/
def maxAddress : Int := 0xFFF

/-- A program with its labels, in the order of their definition. -/
structure Program where
  entries : List Entry
  labels : List (Label × Int)
  base : Int
  deriving DecidableEq, Repr

/-- The number of elements in front of an index; a negative index counts from the end, and an
index beyond either end stands for that end. -/
def elementsBefore (size : Nat) (index : Int) : Nat :=
  if 0 ≤ index then min size index.toNat else (index + size).toNat

namespace Program

/-- The label table with one more definition; a label that is there already keeps its place. -/
def addLabel (labels : List (Label × Int)) (label : Label) (index : Int) : List (Label × Int) :=
  if labels.any (·.1 == label) then
    labels.map fun entry => if entry.1 == label then (label, index) else entry
  else labels ++ [(label, index)]

/-- The program with the given entries and label definitions; the last definition of a label
counts. -/
def ofParts (entries : List Entry) (definitions : List (Label × Int)) (base : Int) : Program :=
  { entries, base
    labels := definitions.foldl (fun labels (label, index) => addLabel labels label index) [] }

/-- The lines of the program. -/
def lines (p : Program) : List Line := p.entries.map Entry.line

/-- The number of bytes in front of the line with this index. -/
def offsetOf (p : Program) (index : Int) : Nat :=
  Line.totalSize (p.lines.take (elementsBefore p.lines.length index))

/-- The address of the line with this index. -/
def addressOf (p : Program) (index : Int) : Int := p.base + p.offsetOf index

/-- The number of bytes of the program. -/
def size (p : Program) : Nat := p.offsetOf p.lines.length

/-- The bytes of the program, line after line. -/
def bytes (p : Program) : List UInt8 := p.lines.flatMap Line.bytes

/-- The labels with their addresses, in the order of their definition. -/
def symbols (p : Program) : List (Label × Int) :=
  p.labels.map fun (label, index) => (label, p.addressOf index)

/-- The size of a program is the number of its bytes. -/
theorem length_bytes (p : Program) : p.bytes.length = p.size := by
  rw [bytes, Line.length_flatMap_bytes]
  simp [size, offsetOf, elementsBefore]

end Program

end Chip8
