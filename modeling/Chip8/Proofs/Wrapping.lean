/-
# Places that wrap around

Coordinates of the screen and addresses of memory are integers taken modulo a size. How far a place
lies behind a starting place is then a number below the size, and a block that is laid out from the
start meets a place exactly at that number.
-/

import Mathlib.Data.Int.ModEq

namespace Chip8

namespace Sizes

/-- Numbers of four bits wrap at sixteen. The fact has a name so that definitions with literals of
four bits are the same wherever they are read. -/
scoped instance sixteen : NeZero 16 := ⟨by decide⟩

/-- Addresses wrap at the end of memory. -/
scoped instance memory : NeZero 4096 := ⟨by decide⟩

end Sizes

/-- The distance from one place to another, going forward and wrapping around. -/
def offset (size : Nat) (start place : Int) : Nat := ((place - start) % size).toNat

theorem add_offset_emod {size : Nat} (hsize : 0 < size) (start place : Int) :
    (start + offset size start place) % size = place % size := by
  have hnonneg : 0 ≤ (place - start) % size := Int.emod_nonneg _ (by omega)
  rw [offset, Int.toNat_of_nonneg hnonneg, Int.add_emod_emod]
  congr 1
  omega

theorem offset_lt {size : Nat} (hsize : 0 < size) (start place : Int) :
    offset size start place < size := by
  have hlt : (place - start) % size < size := Int.emod_lt_of_pos _ (by omega)
  unfold offset
  omega

/-- Places that are the same up to wrapping have the same offset. -/
theorem offset_congr {size : Nat} (start : Int) {place other : Int}
    (hsame : place % size = other % size) : offset size start place = offset size start other :=
  congrArg Int.toNat (Int.ModEq.sub_right start hsame)

/-- A place is as far from the start as its offset tells. -/
theorem emod_eq_add_iff {size k : Nat} (hk : k < size) (start place : Int) :
    place % size = (start + k) % size ↔ offset size start place = k := by
  constructor
  · intro hplace
    have hdistance : (place - start) % size = (start + k - start) % size :=
      Int.ModEq.sub_right start hplace
    rw [offset, hdistance, add_sub_cancel_left, Int.emod_eq_of_lt (by omega) (by omega)]
    omega
  · intro hoffset
    rw [← hoffset, add_offset_emod (by omega)]

/-- From one place further on, the offset is less by one; that of the start becomes the last. -/
theorem offset_add_one {size : Nat} (hsize : 0 < size) (start place : Int) :
    offset size (start + 1) place =
      if offset size start place = 0 then size - 1 else offset size start place - 1 := by
  have hplace := add_offset_emod hsize start place
  split
  · rename_i hfirst
    refine (emod_eq_add_iff (by omega) (start + 1) place).1 ?_
    have hround : start + 1 + (size - 1 : Nat) = start + size := by omega
    rw [hround, Int.add_emod_right, ← hplace, hfirst, Int.natCast_zero, Int.add_zero]
  · have hlt := offset_lt hsize start place
    refine (emod_eq_add_iff (by omega) (start + 1) place).1 ?_
    have hback : start + 1 + (offset size start place - 1 : Nat) =
        start + offset size start place := by omega
    rw [hback, hplace]

end Chip8
