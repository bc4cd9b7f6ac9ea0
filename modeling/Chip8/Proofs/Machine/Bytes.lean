/-
# Register values as bytes

The arithmetic of the machine is on integers that are brought into range. On bytes it is the
arithmetic of bytes, which wraps by itself, and the flags are facts about the operands.
-/

import Chip8.Arithmetic
import Chip8.Instruction.Basic

namespace Chip8

@[simp] theorem ofInt_toNat (b : UInt8) : UInt8.ofInt (b.toNat : Int) = b := by
  have hbyte := b.toNat_lt
  rw [← UInt8.toNat_inj, UInt8.ofInt, UInt8.toNat_ofNat']
  omega

/-- A number in range is the number of the byte that is cut from it. -/
theorem toNat_ofInt {value : Int} (hvalue : 0 ≤ value ∧ value ≤ 0xFF) :
    ((UInt8.ofInt value).toNat : Int) = value := by
  rw [UInt8.ofInt, UInt8.toNat_ofNat']
  omega

theorem toNat_ofInt16 {value : Int} (hvalue : 0 ≤ value ∧ value ≤ 0xFFFF) :
    ((UInt16.ofInt value).toNat : Int) = value := by
  rw [UInt16.ofInt, UInt16.toNat_ofNat']
  omega

theorem toNat_ofInt_eq (value : Int) : (UInt8.ofInt value).toNat = (value % 256).toNat := by
  rw [UInt8.ofInt, UInt8.toNat_ofNat']
  omega

/-- The lowest eight bits of a number are those of the byte that is cut from it. -/
theorem val_eightBits (k : Nat) : (eightBits k).val = (UInt8.ofNat k).toNat := by
  rw [UInt8.toNat_ofNat', eightBits, Fin.val_ofNat]

theorem toNat_and_fifteen (b : UInt8) : (b &&& 0xF).toNat = b.toNat % 16 := by
  rw [UInt8.toNat_and]
  exact Nat.and_two_pow_sub_one_eq_mod b.toNat 4

/-- Bytes are told apart by their numbers. -/
theorem beq_toNat (a b : UInt8) : ((a.toNat : Int) == b.toNat) = decide (a = b) := by
  rw [Bool.eq_iff_iff, beq_iff_eq, decide_eq_true_eq, ← UInt8.toNat_inj, Int.natCast_inj]

theorem bne_toNat (a b : UInt8) : ((a.toNat : Int) != b.toNat) = decide (a ≠ b) := by
  rw [bne, beq_toNat, decide_not]

namespace Arithmetic

/-- The lowest byte of a number in range is the number. -/
theorem lowByte_of_le {a : Int} (ha : 0 ≤ a ∧ a ≤ 0xFF) : lowByte a = a.toNat := by
  unfold lowByte
  omega

variable (a b : UInt8)

theorem lowByte_toNat : lowByte a.toNat = a.toNat := by
  have ha := a.toNat_lt
  rw [lowByte_of_le (by omega), Int.toNat_natCast]

theorem ofInt_addWrapping : UInt8.ofInt (addWrapping a.toNat b.toNat) = a + b := by
  rw [← UInt8.toNat_inj, toNat_ofInt_eq, UInt8.toNat_add, addWrapping]
  omega

theorem ofInt_addCarry : UInt8.ofInt (addCarry a.toNat b.toNat).1 = a + b :=
  ofInt_addWrapping a b

theorem carry_addCarry : (addCarry a.toNat b.toNat).2 = decide (255 < a.toNat + b.toNat) := by
  rw [addCarry, decide_eq_decide]
  omega

theorem ofInt_subNoBorrow : UInt8.ofInt (subNoBorrow a.toNat b.toNat).1 = a - b := by
  have hb := b.toNat_lt
  rw [← UInt8.toNat_inj, toNat_ofInt_eq, UInt8.toNat_sub, subNoBorrow]
  omega

theorem noBorrow_subNoBorrow : (subNoBorrow a.toNat b.toNat).2 = decide (b ≤ a) := by
  rw [subNoBorrow, decide_eq_decide, UInt8.le_iff_toNat_le]
  omega

theorem ofInt_shiftRight : UInt8.ofInt (shiftRight a.toNat).1 = a >>> 1 := by
  have ha := a.toNat_lt
  have hhalf : a.toNat >>> 1 = a.toNat / 2 := Nat.shiftRight_eq_div_pow a.toNat 1
  rw [← UInt8.toNat_inj, toNat_ofInt_eq, UInt8.toNat_shiftRight, shiftRight]
  simp only [UInt8.reduceToNat, Nat.one_mod, hhalf]
  omega

theorem bit_shiftRight : (shiftRight a.toNat).2 = a.toNat.testBit 0 := by
  rw [shiftRight, Nat.testBit_zero, Bool.eq_iff_iff, beq_iff_eq, decide_eq_true_eq]
  omega

theorem ofInt_shiftLeft : UInt8.ofInt (shiftLeft a.toNat).1 = a <<< 1 := by
  have hdouble : a.toNat <<< 1 = a.toNat * 2 := Nat.shiftLeft_eq a.toNat 1
  rw [← UInt8.toNat_inj, toNat_ofInt_eq, UInt8.toNat_shiftLeft, shiftLeft]
  simp only [UInt8.reduceToNat, Nat.one_mod, hdouble]
  omega

theorem bit_shiftLeft : (shiftLeft a.toNat).2 = a.toNat.testBit 7 := by
  have ha := a.toNat_lt
  rw [shiftLeft, Nat.testBit_eq_decide_div_mod_eq, decide_eq_decide]
  omega

theorem ofInt_bitOr : UInt8.ofInt (bitOr a.toNat b.toNat) = a ||| b := by
  rw [bitOr, lowByte_toNat, lowByte_toNat, ← UInt8.toNat_or, ofInt_toNat]

theorem ofInt_bitAnd : UInt8.ofInt (bitAnd a.toNat b.toNat) = a &&& b := by
  rw [bitAnd, lowByte_toNat, lowByte_toNat, ← UInt8.toNat_and, ofInt_toNat]

theorem ofInt_bitXor : UInt8.ofInt (bitXor a.toNat b.toNat) = a ^^^ b := by
  rw [bitXor, lowByte_toNat, lowByte_toNat, ← UInt8.toNat_xor, ofInt_toNat]

/-- The decimal digits of a byte are bytes. -/
theorem ofNat_decimalDigits :
    (decimalDigits a.toNat).map UInt8.ofNat = [a / 100, a / 10 % 10, a % 10] := by
  have ha := a.toNat_lt
  simp only [decimalDigits, lowByte_toNat, List.map_cons, List.map_nil, List.cons.injEq,
    ← UInt8.toNat_inj, UInt8.toNat_ofNat', UInt8.toNat_div, UInt8.toNat_mod,
    UInt8.reduceToNat, and_true]
  omega

end Arithmetic

end Chip8
