/-
# Resolving references

Every jump or call that refers to a label gets the label's address. References are resolved in
order, each in the program that the ones before it have left; the first one that cannot be resolved
ends the resolution, and the lines after it stay as they were.
-/

import Chip8.Program.Statements

namespace Chip8

/-- Why a reference cannot be resolved. -/
inductive ResolutionError where
  /-- the label is not defined -/
  | undefinedLabel (label : Label) (line : Int)
  /-- the label lies beyond the address range -/
  | addressTooLarge (label : Label) (address line : Int)
  /-- the reference stands at a line that is no jump or call -/
  | notJump (line : Line) (index : Nat)
  /-- the address does not fit the instruction -/
  | operand (error : OperandError)
  deriving DecidableEq, Repr

namespace ResolutionError

/-- The wording of the error. -/
def message : ResolutionError → String
  | .undefinedLabel label line => s!"Undefined label '{String.ofList label}' (line {line})"
  | .addressTooLarge label address _ =>
    let place := String.ofList (Text.hexSigned 4 address)
    s!"Label '{String.ofList label}' resolves to ${place}, beyond $FFF"
  | .notJump line index =>
    s!"unexpected instruction {String.ofList line.description} at line index {index}"
  | .operand error => error.message

/-- The error as a fault of a source line, where it is one. -/
def faults : ResolutionError → List LineFault
  | .undefinedLabel label line => [⟨line, label, .undefined⟩]
  | .addressTooLarge label _ line => [⟨line, label, .outOfRange⟩]
  | .notJump .. | .operand _ => []

end ResolutionError

/-- What resolving a program leaves: its lines, the references resolved with their addresses and
indices, and the error that ended it, if one did. -/
structure Resolution where
  program : Program
  resolved : List (Label × Int × Nat)
  error : Option ResolutionError
  deriving DecidableEq, Repr

/-- The reports on the resolved references. -/
def Resolution.events (r : Resolution) : List Event :=
  r.resolved.map fun (label, address, index) => .resolved label address index

namespace Line

/-- The jump or call with the given address. -/
def withAddress (l : Line) (address : Int) (index : Nat) : Except ResolutionError Line :=
  match l with
  | .instruction i =>
    if i.opcode = .jp ∨ i.opcode = .call then
      match i.withAddress address with
      | .ok resolved => .ok (.instruction resolved)
      | .error e => .error (.operand e)
    else .error (.notJump l index)
  | .data _ => .error (.notJump l index)

end Line

namespace Program

/-- The address that a reference at a source line stands for. -/
def addressOfLabel (p : Program) (label : Label) (sourceLine : Int) : Except ResolutionError Int :=
  match p.labels.lookup label with
  | none => .error (.undefinedLabel label sourceLine)
  | some index =>
    let address := p.addressOf index
    if maxAddress < address then .error (.addressTooLarge label address sourceLine)
    else .ok address

/-- The entry at an index with its reference to a label resolved, and the address of the label. -/
def resolveReference (p : Program) (index : Nat) (e : Entry) (label : Label) :
    Except ResolutionError (Entry × Int) := do
  let address ← p.addressOfLabel label e.sourceLine
  let line ← e.line.withAddress address index
  return ({ e with line }, address)

/-- Resolves the references of the entries behind those that are done, which are given last first.
Addresses are those of the program as it stands at that moment. -/
def resolveBehind (p : Program) (done : List Entry) : List Entry → Resolution
  | [] => { program := { p with entries := done.reverse }, resolved := [], error := none }
  | e :: rest =>
    match e.reference with
    | none => p.resolveBehind (e :: done) rest
    | some label =>
      let current : Program := { p with entries := done.reverse ++ e :: rest }
      match current.resolveReference done.length e label with
      | .error error => { program := current, resolved := [], error := some error }
      | .ok (entry, address) =>
        let r := p.resolveBehind (entry :: done) rest
        { r with resolved := (label, address, done.length) :: r.resolved }

/-- Resolves every reference of the program. -/
def resolve (p : Program) : Resolution := p.resolveBehind [] p.entries

end Program

end Chip8
