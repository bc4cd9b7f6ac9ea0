/-
# Faults of the machine

What can go wrong while an instruction is executed, and when a ROM is loaded. A program by itself
can only run past an end of the call stack. A sprite is not drawn at a column that is no word, but
no instruction makes such a column: somebody has to put it into a register.
-/

import Chip8.Text.Numeral

namespace Chip8

/-- Why a sprite is not drawn. -/
inductive DrawError where
  /-- the column is no word -/
  | columnOverflow (column : Int)
  /-- the screen has no rows -/
  | noRows
  /-- the screen has no columns -/
  | noColumns
  deriving DecidableEq, Repr

/-- The wording of the error. -/
def DrawError.message : DrawError → String
  | .columnOverflow column => s!"column {column} does not fit in 64 bits"
  | .noRows => "the screen has no rows"
  | .noColumns => "the screen has no columns"

/-- Why an instruction cannot be executed. -/
inductive Fault where
  /-- a call at this address would exceed the limit on the call stack -/
  | stackOverflow (limit address : Int)
  /-- a return at this address finds the call stack empty -/
  | stackUnderflow (address : Int)
  /-- a sprite is not drawn -/
  | undrawn (reason : DrawError)
  deriving DecidableEq, Repr

/-- The wording of the fault. -/
def Fault.message : Fault → String
  | .stackOverflow limit address =>
    s!"call stack depth {limit} exceeded at ${String.ofList (Text.hexSigned 3 address)}"
  | .stackUnderflow address =>
    s!"RET with empty stack at ${String.ofList (Text.hexSigned 3 address)}"
  | .undrawn reason => reason.message

/-- A ROM that does not fit between its base and the end of memory. -/
structure RomTooLarge where
  size : Nat
  room : Int
  deriving DecidableEq, Repr

/-- The wording of the failed load. -/
def RomTooLarge.message (e : RomTooLarge) : String := s!"ROM is {e.size} bytes, only {e.room} fit"

end Chip8
