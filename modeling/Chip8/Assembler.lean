/-
# The assembler

Assembling a source reads its statements into a program, resolves the references and gives the
bytes. An `Assembler` keeps the outcome of its last source: the program and its bytes after a
success, the faults after a failure, and nothing of the sources before.
-/

import Chip8.Program.Listing
import Chip8.Program.Resolution

namespace Chip8

/-- Why a source is not assembled. -/
inductive AssemblyError where
  /-- statements are faulty -/
  | faulty (faults : List LineFault)
  /-- a reference cannot be resolved -/
  | unresolved (error : ResolutionError)
  /-- a numeral goes beyond the digit limit -/
  | limit (limit : DigitLimit)
  deriving DecidableEq, Repr

namespace AssemblyError

/-- The wording of the error. -/
def message : AssemblyError → String
  | .faulty faults => s!"{faults.length} error(s) in pass 1"
  | .unresolved error => error.message
  | .limit bound => bound.message

/-- The faults that the error collects. -/
def faults : AssemblyError → List LineFault
  | .faulty faults => faults
  | .unresolved error => error.faults
  | .limit _ => []

end AssemblyError

namespace Program

/-- The program of a source with its references unresolved. -/
def ofSource (base : Int) (source : Text) : Except AssemblyError Program :=
  match Draft.ofSource source with
  | .error limit => .error (.limit limit)
  | .ok draft =>
    if draft.faults.isEmpty then .ok (draft.program base)
    else .error (.faulty draft.faults.toList)

/-- The program of a source with its references resolved. -/
def assemble (base : Int) (source : Text) : Except AssemblyError Program := do
  let p ← ofSource base source
  let r := p.resolve
  match r.error with
  | none => return r.program
  | some error => throw (.unresolved error)

/-- The reports that assembling a source makes. -/
def assemblyEvents (base : Int) (source : Text) : List Event :=
  match Draft.ofSource source with
  | .error _ => []
  | .ok draft =>
    if draft.faults.isEmpty then
      let r := (draft.program base).resolve
      let done := if r.error.isNone then [Event.assembled r.program.size] else []
      draft.event :: r.events ++ done
    else [draft.event]

end Program

/-- The bytes of a source that is loaded at the usual place. -/
def assemble (source : Text) : Except AssemblyError (List UInt8) :=
  (Program.assemble programStart source).map Program.bytes

/-- An assembler with the outcome of its last source. -/
structure Assembler where
  base : Int
  program : Option Program := none
  binary : List UInt8 := []
  faults : List LineFault := []
  deriving Repr

namespace Assembler

/-- Assembles a source and keeps its outcome in place of the last one. -/
def assemble (a : Assembler) (source : Text) :
    Except AssemblyError (List UInt8) × Assembler :=
  match Program.assemble a.base source with
  | .ok p => (.ok p.bytes, { base := a.base, program := some p, binary := p.bytes })
  | .error e => (.error e, { base := a.base, faults := e.faults })

/-- The labels of the last source with their addresses. -/
def symbols (a : Assembler) : List (Label × Int) :=
  match a.program with
  | some p => p.symbols
  | none => []

/-- The listing of the last source. -/
def listing (a : Assembler) : Text :=
  match a.program with
  | some p => p.listing
  | none => []

end Assembler

end Chip8
