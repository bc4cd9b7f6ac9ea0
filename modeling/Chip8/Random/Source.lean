/-
# Sources of random bytes

The machine asks for random bytes one at a time, and a reset may start the source again from a
seed. A `Tape` is a source that repeats a given row of bytes.
-/

namespace Chip8

/-- A source of random bytes. -/
class RandomSource (ρ : Type) where
  /-- the next byte, and the source after it -/
  next : ρ → UInt8 × ρ
  /-- the source started again from a seed -/
  reseed : Int → ρ → ρ

/-- A row of bytes that is repeated without end, with the place that has been reached. -/
structure Tape where
  bytes : Array UInt8
  place : Nat
  deriving DecidableEq, Repr

namespace Tape

/-- The tape at its start. -/
def ofList (bytes : List UInt8) : Tape := { bytes := bytes.toArray, place := 0 }

/-- The next byte of the tape; an empty tape gives zeros. -/
def next (t : Tape) : UInt8 × Tape :=
  (t.bytes[t.place % t.bytes.size]?.getD 0, { t with place := t.place + 1 })

/-- The tape wound back to its start. -/
def rewind (t : Tape) : Tape := { t with place := 0 }

/-- Winding a tape back ignores the seed. -/
instance : RandomSource Tape where
  next := next
  reseed _ t := t.rewind

end Tape

end Chip8
