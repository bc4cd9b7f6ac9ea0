/-
# Programs from statements

A statement may define a label, and then hold an instruction, a jump or call to a label, or a block
of data. `Draft` collects a program statement by statement. A fault does not end the collection:
it is recorded with its line, so that all faulty statements of a source are reported together. Only
a numeral beyond the digit limit ends it.
-/

import Chip8.Instruction.Reader
import Chip8.Journal
import Chip8.Program.Basic
import Chip8.Source

namespace Chip8

/-- What a report on a source line complains about. -/
inductive Complaint where
  /-- a label is defined again -/
  | redefined (label : Label)
  /-- the statement is rejected -/
  | rejected (reason : Rejection)
  /-- a reference names no label -/
  | undefined
  /-- a reference names a label beyond the address range -/
  | outOfRange
  deriving DecidableEq, Repr

/-- The wording of the complaint. -/
def Complaint.message : Complaint → String
  | .redefined label => s!"Duplicate label '{String.ofList label}'"
  | .rejected reason => reason.message
  | .undefined => "Undefined label"
  | .outOfRange => "Address out of range"

/-- A complaint about a piece of a source line. -/
structure LineFault where
  line : Int
  text : Text
  complaint : Complaint
  deriving DecidableEq, Repr

/-- The fault as one line of a report. -/
def LineFault.report (f : LineFault) : String :=
  s!"line {f.line}: '{String.ofList f.text}': {f.complaint.message}"

/-- Letters that may start the name of a label. -/
def isLabelStart (c : Char) : Bool :=
  ('a' ≤ c && c ≤ 'z') || ('A' ≤ c && c ≤ 'Z') || c == '_'

/-- Characters that may stand inside the name of a label. -/
def isLabelChar (c : Char) : Bool := isLabelStart c || ('0' ≤ c && c ≤ '9')

/-- The text is the name of a label. -/
def isLabelName : Text → Bool
  | [] => false
  | c :: rest => isLabelStart c && rest.all isLabelChar

/-- The label that a statement defines, and the statement behind it. -/
def splitLabel? (t : Text) : Option (Label × Text) :=
  match t.dropWhile (· != ':') with
  | ':' :: rest =>
    let name := t.takeWhile (· != ':')
    if isLabelName name then some (name.map Char.toLower, Text.trim rest) else none
  | _ => none

namespace Line

/-- The byte that a token of a data statement stands for. -/
def readByte (token : Text) : Except Rejection UInt8 :=
  let folded := Text.lower token
  let digits := match folded with
    | '0' :: 'x' :: rest => rest
    | _ => folded
  match Text.readDigits? 16 Text.hexValue? digits with
  | none => .error (.notNumber token)
  | some value => if value ≤ 0xFF then .ok (UInt8.ofNat value) else .error (.notByte token)

/-- The block of data that the tokens stand for. -/
def readData (tokens : List Text) : Except Rejection Line :=
  if tokens.isEmpty then .error .noBytes else (tokens.mapM readByte).map .data

/-- The address of a jump or call as long as its reference is not resolved. -/
def placeholderAddress : Address := twelveBits 0

/-- The jump or call with a placeholder address that a mnemonic names. -/
def placeholder? (mnemonic : Text) : Option Line :=
  if mnemonic == ['j', 'p'] then some (.instruction (.jp placeholderAddress))
  else if mnemonic == ['c', 'a', 'l', 'l'] then some (.instruction (.call placeholderAddress))
  else none

/-- A jump or call to a label, if the words of the statement are that. -/
def readReference? : List Text → Option (Line × Label)
  | [mnemonic, operand] =>
    if isLabelName operand && !Operand.isRegister operand then
      (placeholder? mnemonic).map fun line => (line, operand)
    else none
  | _ => none

/-- The line of a statement without its label, and the label that it refers to. -/
def read (t : Text) : Except ReadError (Line × Option Label) :=
  let folded := Text.words (Text.lower t)
  if folded.head? == some ['b', 'y', 't', 'e', 's'] then
    match readData ((Text.words t).drop 1) with
    | .ok line => .ok (line, none)
    | .error reason => .error (.rejected reason)
  else match readReference? folded with
    | some (line, label) => .ok (line, some label)
    | none => (Instruction.read t).map fun i => (.instruction i, none)

end Line

/-- A program in the making, with the faults met so far. -/
structure Draft where
  entries : Array Entry
  labels : Array (Label × Int)
  faults : Array LineFault
  deriving Repr

namespace Draft

/-- The draft of no statements. -/
def empty : Draft := { entries := #[], labels := #[], faults := #[] }

/-- The label marks the line that follows; a second definition is a fault. -/
def defineLabel (d : Draft) (s : Statement) (label : Label) : Draft :=
  if d.labels.any (·.1 == label) then
    { d with faults := d.faults.push ⟨s.line, s.text, .redefined label⟩ }
  else { d with labels := d.labels.push (label, d.entries.size) }

/-- The line of a statement is added to the draft, or its fault is. -/
def addLine (d : Draft) (line : Nat) (text : Text) : Except DigitLimit Draft :=
  match Line.read text with
  | .ok (content, reference) => .ok { d with entries := d.entries.push ⟨content, reference, line⟩ }
  | .error (.rejected reason) =>
    .ok { d with faults := d.faults.push ⟨line, text, .rejected reason⟩ }
  | .error (.limit limit) => .error limit

/-- A statement is added to the draft: its label first, then what stands behind the label. -/
def addStatement (d : Draft) (s : Statement) : Except DigitLimit Draft :=
  match splitLabel? s.text with
  | none => d.addLine s.line s.text
  | some (label, rest) =>
    let defined := d.defineLabel s label
    if rest.isEmpty then .ok defined else defined.addLine s.line rest

/-- The draft of the statements of a source. -/
def ofSource (source : Text) : Except DigitLimit Draft :=
  (Source.statements source).foldlM addStatement empty

/-- The report on a finished draft. -/
def event (d : Draft) : Event := .sourceRead d.entries.size d.labels.size d.faults.size

/-- The program of a draft without faults. -/
def program (d : Draft) (base : Int) : Program :=
  { entries := d.entries.toList, labels := d.labels.toList, base }

end Draft

end Chip8
