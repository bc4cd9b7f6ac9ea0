/-
# The keypad

Sixteen keys that are up or down. A key stays down until all keys are cleared.
-/

import Chip8.Instruction.Basic

namespace Chip8

/-- A number that names no key. -/
structure NoSuchKey where
  number : Int
  deriving DecidableEq, Repr

/-- The wording of the error. -/
def NoSuchKey.message (e : NoSuchKey) : String := s!"Key {e.number} out of range 0-F"

/-- The key with a number. -/
def keyOf (number : Int) : Except NoSuchKey Nibble :=
  if h : 0 ≤ number ∧ number < 16 then .ok ⟨number.toNat, by omega⟩ else .error ⟨number⟩

/-- The keys that are down. -/
structure Keypad where
  down : Vector Bool 16
  deriving DecidableEq, Repr

namespace Keypad

/-- No key is down. -/
def initial : Keypad := { down := Vector.replicate 16 false }

/-- Presses a key. -/
def press (p : Keypad) (key : Nibble) : Keypad := { down := p.down.set key true }

/-- The key with the number, taken modulo sixteen, is down. -/
def isPressed (p : Keypad) (number : Int) : Bool := p.down.get ⟨(number % 16).toNat, by omega⟩

/-- The numbers of the keys that are down, in ascending order. -/
def pressed (p : Keypad) : List Nat :=
  (List.range 16).filter fun (key : Nat) => p.isPressed key

theorem isPressed_key (p : Keypad) (key : Nibble) : p.isPressed key = p.down[key] := by
  have hkey : ((key : Int) % 16).toNat = key.val := by omega
  simp only [isPressed, hkey]
  rfl

/-- To press a key leaves the other keys alone. -/
theorem isPressed_press (p : Keypad) (key other : Nibble) :
    (p.press key).isPressed other = true ↔ other = key ∨ p.isPressed other = true := by
  rw [isPressed_key, isPressed_key]
  by_cases heq : other = key
  · simp [press, heq]
  · have hindex : key.val ≠ other.val := fun h => heq (Fin.ext h.symm)
    simp [press, heq, hindex]

end Keypad

end Chip8
