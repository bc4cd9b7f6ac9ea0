/-
# Words

The signed integers of 64 bits. Columns of a screen and positions in a block of bytes are counted
in them; other integers are refused, and a count that runs over the end goes on from the other end.
-/

namespace Chip8.Word

/-- The least positive integer that is no word. -/
def limit : Int := 0x8000000000000000

/-- The integer is a word. -/
def holds (n : Int) : Bool := decide (-limit ≤ n ∧ n < limit)

/-- The word with the same lowest 64 bits. -/
def wrap (n : Int) : Int := n.bmod 0x10000000000000000

/-- A word wraps to itself. -/
theorem wrap_eq_self {n : Int} (hword : holds n = true) : wrap n = n := by
  have hbounds : -limit ≤ n ∧ n < limit := of_decide_eq_true hword
  unfold limit at hbounds
  exact Int.bmod_eq_of_le (by omega) (by omega)

/-- Numbers of the size of a register or the index are words. -/
theorem holds_of_le {n : Int} (hlow : 0 ≤ n) (hhigh : n ≤ 0xFFFF) : holds n = true :=
  decide_eq_true (by unfold limit; omega)

end Chip8.Word
