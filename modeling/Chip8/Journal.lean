/-
# Journal

What the toolkit reports while it works, as data: each event has a level, a channel that names the
part that speaks, and a message. A journal is a list of events, oldest first.
-/

import Chip8.Fault
import Chip8.Instruction.Printer

namespace Chip8

/-- How much an event matters, in ascending order. -/
inductive Level where
  | debug | info | warning | error
  deriving DecidableEq, Repr

namespace Level

/-- The rank of the level. -/
def rank : Level → Nat
  | .debug => 0
  | .info => 1
  | .warning => 2
  | .error => 3

/-- The name of the level. -/
def name : Level → String
  | .debug => "DEBUG"
  | .info => "INFO"
  | .warning => "WARNING"
  | .error => "ERROR"

end Level

/-- The part of the toolkit that reports. -/
inductive Channel where
  | assembler | disassembler | emulator | frames
  deriving DecidableEq, Repr

/-- Something worth reporting. -/
inductive Event where
  /-- all statements have been read -/
  | sourceRead (lines labels faults : Nat)
  /-- the reference at a line index got its address -/
  | resolved (label : Text) (address : Int) (index : Nat)
  /-- a program has been assembled -/
  | assembled (size : Nat)
  /-- disassembly stopped at a `NOP` word -/
  | sentinel (offset : Nat)
  /-- a ROM has been loaded -/
  | loaded (size : Nat) (base : Int)
  /-- an instruction is about to be executed -/
  | traced (line : Text)
  /-- a run stopped at a breakpoint -/
  | breakpoint (pc : Int)
  /-- a run stopped at an instruction that cannot be executed -/
  | runFailed (fault : Fault) (pc : Int) (word : Nat) (instruction : Instruction)
  /-- a single step met an instruction that cannot be executed -/
  | stepFailed (fault : Fault) (pc : Int)
  /-- a key ended the wait of a register -/
  | keyReleased (key : Nibble) (register : Reg)
  /-- the frame loop paused -/
  | paused (pc : Int)
  /-- the frame loop resumed -/
  | resumed (pc : Int)
  /-- the frame loop ended on request -/
  | quit (frames : Nat)
  deriving DecidableEq, Repr

namespace Event

/-- The level of the event. -/
def level : Event → Level
  | .sourceRead .. | .resolved .. | .assembled _ | .sentinel _ | .traced _ | .breakpoint _
  | .keyReleased .. => .debug
  | .loaded .. | .paused _ | .resumed _ | .quit _ => .info
  | .runFailed .. | .stepFailed .. => .error

/-- The part that reports the event. -/
def channel : Event → Channel
  | .sourceRead .. | .resolved .. | .assembled _ => .assembler
  | .sentinel _ => .disassembler
  | .loaded .. | .traced _ | .breakpoint _ | .runFailed .. | .keyReleased .. => .emulator
  | .stepFailed .. | .paused _ | .resumed _ | .quit _ => .frames

/-- An address as messages show it. -/
def addressText (address : Int) : String := String.ofList ('$' :: Text.hexSigned 3 address)

/-- The wording of the event. -/
def message : Event → String
  | .sourceRead lines labels faults =>
    s!"pass 1: {lines} lines, {labels} labels, {faults} errors"
  | .resolved label address index =>
    s!"resolved {String.ofList label} -> {addressText address} at index {index}"
  | .assembled size => s!"assembled {size} bytes"
  | .sentinel offset => s!"sentinel at offset {offset}"
  | .loaded size base => s!"loaded {size}-byte ROM at {addressText base}"
  | .traced line => String.ofList line
  | .breakpoint pc => s!"breakpoint at {addressText pc}"
  | .runFailed fault pc word instruction =>
    let wordText := String.ofList (Text.hexPadded 4 word)
    s!"{fault.message} at {addressText pc} ({wordText} {String.ofList instruction.text})"
  | .stepFailed fault pc => s!"{fault.message} at {addressText pc}"
  | .keyReleased key register =>
    let keyText := String.ofList (Text.hexNat key)
    s!"key {keyText} released wait on V{String.ofList (Text.hexNat register)}"
  | .paused pc => s!"paused at {addressText pc}"
  | .resumed pc => s!"resumed at {addressText pc}"
  | .quit frames => s!"quit after {frames} frames"

end Event

end Chip8
