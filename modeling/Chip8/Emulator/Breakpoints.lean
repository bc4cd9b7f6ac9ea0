/-
# Breakpoints

The addresses at which a run stops, in ascending order and without repetition.
-/

import Chip8.Memory.Basic

namespace Chip8

/-- The addresses at which a run stops. -/
structure Breakpoints where
  addresses : List Address
  deriving DecidableEq, Repr

namespace Breakpoints

/-- No breakpoints. -/
def none : Breakpoints := { addresses := [] }

/-- An address put into its place in an ascending list, unless it is there. -/
def insertAscending (a : Address) : List Address → List Address
  | [] => [a]
  | b :: rest => if a < b then a :: b :: rest else if a = b then b :: rest
    else b :: insertAscending a rest

/-- Adds the cell that an address names. -/
def insert (s : Breakpoints) (address : Int) : Breakpoints :=
  { addresses := insertAscending (cellOf address) s.addresses }

/-- Removes the cell that an address names. -/
def erase (s : Breakpoints) (address : Int) : Breakpoints :=
  { addresses := s.addresses.filter (· != cellOf address) }

/-- A run stops at this value of the program counter. -/
def contains (s : Breakpoints) (pc : Int) : Bool :=
  s.addresses.any fun (a : Address) => (a : Int) == pc

end Breakpoints

end Chip8
