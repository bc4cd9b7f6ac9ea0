/-
# Instruction words by nibbles

A word has four nibbles: its class, the two registers and the last nibble. The instruction table
decodes by masks; here the same decoding is written out nibble by nibble, and the two are shown to
agree on every word. From that the word of every instruction decodes to the instruction.
-/

import Chip8.Proofs.Instruction.Building
import Chip8.Proofs.Wrapping

namespace Chip8

open scoped Sizes

/-- The word with the given nibbles, the highest first. -/
def wordOfNibbles (c x y n : Nibble) : Nat := ((c * 16 + x) * 16 + y) * 16 + n

theorem wordOfNibbles_cut {word : Nat} (hword : word < 65536) :
    wordOfNibbles (fourBits (word / 4096)) (fourBits (word / 256)) (fourBits (word / 16))
      (fourBits word) = word := by
  simp only [wordOfNibbles, fourBits, Fin.ofNat]
  omega

/-- The low byte stands below the bits of the high one, so the two are added. -/
theorem wordOfBytes_eq_add (high low : UInt8) :
    wordOfBytes high low = high.toNat * 256 + low.toNat := by
  rw [wordOfBytes, ← Nat.shiftLeft_add_eq_or_of_lt low.toNat_lt, Nat.shiftLeft_eq]

/-- Two bytes in memory give the four nibbles of a word. -/
theorem wordOfBytes_eq (high low : UInt8) :
    wordOfBytes high low = wordOfNibbles (fourBits (high.toNat / 16)) (fourBits high.toNat)
      (fourBits (low.toNat / 16)) (fourBits low.toNat) := by
  have hhigh := high.toNat_lt
  have hlow := low.toNat_lt
  simp only [wordOfBytes_eq_add, wordOfNibbles, fourBits, Fin.ofNat]
  omega

theorem wordOfBytes_lt (high low : UInt8) : wordOfBytes high low < 65536 := by
  have hhigh := high.toNat_lt
  have hlow := low.toNat_lt
  rw [wordOfBytes_eq_add]
  omega

/-- The bytes of a word give the word back. -/
theorem wordOfBytes_ofNat {word : Nat} (hword : word < 65536) :
    wordOfBytes (UInt8.ofNat (word / 256)) (UInt8.ofNat word) = word := by
  simp only [wordOfBytes_eq_add, UInt8.toNat_ofNat']
  omega

theorem wordOfNibbles_inj {c x y n c' x' y' n' : Nibble} :
    wordOfNibbles c x y n = wordOfNibbles c' x' y' n' ↔ c = c' ∧ x = x' ∧ y = y' ∧ n = n' := by
  simp only [wordOfNibbles, Fin.ext_iff]
  omega

/-- Numbers are masked digit by digit. -/
theorem land_mul_sixteen (a b : Nat) (x y : Nibble) :
    (a * 16 + x) &&& (b * 16 + y) = (a &&& b) * 16 + (x &&& y : Nibble) := by
  have hdiv : ((a * 16 + x) &&& (b * 16 + y)) / 2 ^ 4 = a &&& b := by
    rw [Nat.and_div_two_pow]
    congr 1 <;> omega
  have hmod : ((a * 16 + x) &&& (b * 16 + y)) % 2 ^ 4 = (x &&& y : Nibble) := by
    rw [Nat.and_mod_two_pow, Fin.and_val]
    congr 1 <;> omega
  omega

theorem wordOfNibbles_land (c x y n c' x' y' n' : Nibble) :
    wordOfNibbles c x y n &&& wordOfNibbles c' x' y' n' =
      wordOfNibbles (c &&& c') (x &&& x') (y &&& y') (n &&& n') := by
  simp only [wordOfNibbles, land_mul_sixteen, Fin.and_val]

/-- A numeral that is cut is the nibble with that numeral. -/
@[simp] theorem fourBits_ofNat (k : Nat) : fourBits (no_index (OfNat.ofNat k)) = OfNat.ofNat k :=
  rfl

@[simp] theorem nibble_land_fifteen (x : Nibble) : x &&& 15 = x := by
  revert x
  decide

@[simp] theorem nibble_land_zero (x : Nibble) : x &&& 0 = 0 := by
  revert x
  decide

section Fields

variable (c x y n : Nibble)

@[simp] theorem fourBits_wordOfNibbles_x : fourBits (wordOfNibbles c x y n / 256) = x := by
  simp only [wordOfNibbles, fourBits, Fin.ext_iff, Fin.ofNat]
  omega

@[simp] theorem fourBits_wordOfNibbles_y : fourBits (wordOfNibbles c x y n / 16) = y := by
  simp only [wordOfNibbles, fourBits, Fin.ext_iff, Fin.ofNat]
  omega

@[simp] theorem fourBits_wordOfNibbles_n : fourBits (wordOfNibbles c x y n) = n := by
  simp only [wordOfNibbles, fourBits, Fin.ext_iff, Fin.ofNat]
  omega

@[simp] theorem eightBits_wordOfNibbles :
    eightBits (wordOfNibbles c x y n) = eightBits (y * 16 + n) := by
  simp only [wordOfNibbles, eightBits, Fin.ext_iff, Fin.ofNat]
  omega

@[simp] theorem twelveBits_wordOfNibbles :
    twelveBits (wordOfNibbles c x y n) = twelveBits ((x * 16 + y) * 16 + n) := by
  simp only [wordOfNibbles, twelveBits, Fin.ext_iff, Fin.ofNat]
  omega

end Fields

namespace Instruction

/-- The instruction of a word by its nibbles. The class selects it alone, or together with the last
nibble or the last byte; any other word does nothing. -/
def ofNibbles (c x y n : Nibble) : Instruction :=
  let nn : Byte := eightBits (y * 16 + n)
  let nnn : Address := twelveBits ((x * 16 + y) * 16 + n)
  match c with
  | 0x0 =>
    if x = 0 ∧ y = 0xE ∧ n = 0 then .cls
    else if x = 0 ∧ y = 0xE ∧ n = 0xE then .ret
    else .nop
  | 0x1 => .jp nnn
  | 0x2 => .call nnn
  | 0x3 => .seByte x nn
  | 0x4 => .sneByte x nn
  | 0x5 => if n = 0 then .seReg x y else .nop
  | 0x6 => .ldByte x nn
  | 0x7 => .addByte x nn
  | 0x8 =>
    match n with
    | 0x0 => .ldReg x y
    | 0x1 => .or x y
    | 0x2 => .and x y
    | 0x3 => .xor x y
    | 0x4 => .addReg x y
    | 0x5 => .sub x y
    | 0x6 => .shr x
    | 0x7 => .subn x y
    | 0xE => .shl x
    | _ => .nop
  | 0x9 => if n = 0 then .sneReg x y else .nop
  | 0xA => .ldIndex nnn
  | 0xB => .jpOffset nnn
  | 0xC => .rnd x nn
  | 0xD => .drw x y n
  | 0xE =>
    match y, n with
    | 0x9, 0xE => .skp x
    | 0xA, 0x1 => .sknp x
    | _, _ => .nop
  | 0xF =>
    match y, n with
    | 0x0, 0x7 => .getDelay x
    | 0x0, 0xA => .waitKey x
    | 0x1, 0x5 => .setDelay x
    | 0x1, 0x8 => .setSound x
    | 0x1, 0xE => .addIndex x
    | 0x2, 0x9 => .ldGlyph x
    | 0x3, 0x3 => .storeDigits x
    | 0x5, 0x5 => .storeRegs x
    | 0x6, 0x5 => .loadRegs x
    | _, _ => .nop
  | _ => .nop

end Instruction

namespace Opcode

/-- A word shows the pattern of an opcode. -/
def ShownBy (op : Opcode) (word : Nat) : Prop := word &&& op.format.mask = op.format.pattern

/-- No word shows the patterns of two opcodes. -/
theorem eq_of_shownBy {op op' : Opcode} {word : Nat} (h : op.ShownBy word)
    (h' : op'.ShownBy word) : op = op' := by
  -- Patterns that one word shows agree where both masks look, which the table rules out.
  have hdistinct : ∀ op ∈ all, ∀ op' ∈ all,
      op.format.pattern &&& op'.format.mask = op'.format.pattern &&& op.format.mask → op = op' := by
    decide +kernel
  refine hdistinct op (mem_all op) op' (mem_all op') ?_
  rw [← h, ← h', Nat.and_assoc, Nat.and_assoc, Nat.and_comm op.format.mask]

/-- The nibbles by which a word shows the pattern of an opcode. -/
theorem shownBy_wordOfNibbles (op : Opcode) (c x y n : Nibble) :
    op.ShownBy (wordOfNibbles c x y n) ↔
      match op with
      | .nop => c = 0 ∧ x = 0 ∧ y = 0 ∧ n = 0
      | .cls => c = 0 ∧ x = 0 ∧ y = 14 ∧ n = 0
      | .ret => c = 0 ∧ x = 0 ∧ y = 14 ∧ n = 14
      | .jp => c = 1
      | .call => c = 2
      | .seByte => c = 3
      | .sneByte => c = 4
      | .seReg => c = 5 ∧ n = 0
      | .ldByte => c = 6
      | .addByte => c = 7
      | .ldReg => c = 8 ∧ n = 0
      | .or => c = 8 ∧ n = 1
      | .and => c = 8 ∧ n = 2
      | .xor => c = 8 ∧ n = 3
      | .addReg => c = 8 ∧ n = 4
      | .sub => c = 8 ∧ n = 5
      | .shr => c = 8 ∧ n = 6
      | .subn => c = 8 ∧ n = 7
      | .shl => c = 8 ∧ n = 14
      | .sneReg => c = 9 ∧ n = 0
      | .ldIndex => c = 10
      | .jpOffset => c = 11
      | .rnd => c = 12
      | .drw => c = 13
      | .skp => c = 14 ∧ y = 9 ∧ n = 14
      | .sknp => c = 14 ∧ y = 10 ∧ n = 1
      | .getDelay => c = 15 ∧ y = 0 ∧ n = 7
      | .waitKey => c = 15 ∧ y = 0 ∧ n = 10
      | .setDelay => c = 15 ∧ y = 1 ∧ n = 5
      | .setSound => c = 15 ∧ y = 1 ∧ n = 8
      | .addIndex => c = 15 ∧ y = 1 ∧ n = 14
      | .ldGlyph => c = 15 ∧ y = 2 ∧ n = 9
      | .storeDigits => c = 15 ∧ y = 3 ∧ n = 3
      | .storeRegs => c = 15 ∧ y = 5 ∧ n = 5
      | .loadRegs => c = 15 ∧ y = 6 ∧ n = 5 := by
  -- Masks and patterns are words, so a masked word is compared nibble by nibble.
  have hmask := @wordOfNibbles_cut op.format.mask (by cases op <;> decide)
  have hpattern := @wordOfNibbles_cut op.format.pattern (by cases op <;> decide)
  rw [ShownBy, ← hmask, ← hpattern, wordOfNibbles_land, wordOfNibbles_inj]
  cases op <;>
    simp [format, Format.mask, Format.fields, List.filterMap_cons, Slot.field?, Field.limit,
      Field.width, Field.weight, Field.shift]

/-- The opcode that a word shows builds the instruction of its nibbles. -/
theorem build_of_shownBy {op : Opcode} {c x y n : Nibble}
    (hshown : op.ShownBy (wordOfNibbles c x y n)) :
    (op.build fun f => wordOfNibbles c x y n / f.weight) = Instruction.ofNibbles c x y n := by
  rw [shownBy_wordOfNibbles] at hshown
  cases op <;> simp only at hshown <;>
    simp [build, Field.weight, Field.shift, Instruction.ofNibbles, hshown]

/-- If the nibbles select an instruction, then their word shows its opcode. -/
theorem shownBy_ofNibbles {c x y n : Nibble} (hsome : Instruction.ofNibbles c x y n ≠ .nop) :
    (Instruction.ofNibbles c x y n).opcode.ShownBy (wordOfNibbles c x y n) := by
  rw [shownBy_wordOfNibbles]
  revert hsome
  fun_cases Instruction.ofNibbles <;> simp_all [Instruction.opcode]

end Opcode

/-- A word that shows the pattern of an opcode decodes to its instruction. -/
theorem decode_of_shownBy {op : Opcode} {word : Nat} (hshown : op.ShownBy word) :
    decode word = op.build fun f => word / f.weight := by
  have hmem : (op, op.format.mask, op.format.pattern) ∈ decodingRows :=
    List.mem_map_of_mem (Opcode.mem_all op)
  unfold decode
  split
  · rename_i row hfind
    obtain ⟨op', -, hrow⟩ := List.mem_map.1 (List.mem_of_find?_eq_some hfind)
    obtain ⟨rfl, rfl⟩ := Prod.mk.inj hrow
    have hmatch := List.find?_some hfind
    rw [Opcode.eq_of_shownBy hshown (beq_iff_eq.1 hmatch)]
  · rename_i hfind
    have hother := List.find?_eq_none.1 hfind _ hmem
    exact absurd (beq_iff_eq.2 hshown) hother

/-- A word that shows no pattern decodes to the instruction that does nothing. -/
theorem decode_of_not_shownBy {word : Nat} (hshown : ∀ op : Opcode, ¬ op.ShownBy word) :
    decode word = .nop := by
  unfold decode
  split
  · rename_i row hfind
    obtain ⟨op, -, hrow⟩ := List.mem_map.1 (List.mem_of_find?_eq_some hfind)
    obtain ⟨rfl, rfl⟩ := Prod.mk.inj hrow
    have hmatch := List.find?_some hfind
    exact absurd (beq_iff_eq.1 hmatch) (hshown op)
  · rfl

/-- A word decodes to an instruction that does something exactly if it shows its pattern. -/
theorem opcode_decode_eq_iff {op : Opcode} (hop : op ≠ .nop) {word : Nat} :
    (decode word).opcode = op ↔ op.ShownBy word := by
  constructor
  · intro hopcode
    by_cases hshown : ∃ op' : Opcode, op'.ShownBy word
    · obtain ⟨op', hop'⟩ := hshown
      rw [decode_of_shownBy hop', Opcode.opcode_build] at hopcode
      rwa [← hopcode]
    · rw [decode_of_not_shownBy (not_exists.1 hshown)] at hopcode
      exact absurd hopcode.symm hop
  · intro hshown
    rw [decode_of_shownBy hshown, Opcode.opcode_build]

/-- There is one word of a return. -/
theorem decode_eq_ret_iff {word : Nat} (hword : word < 65536) :
    decode word = .ret ↔ word = 0x00EE := by
  have hopcode : decode word = .ret ↔ (decode word).opcode = .ret := by
    cases decode word <;> simp [Instruction.opcode]
  rw [hopcode, opcode_decode_eq_iff Opcode.noConfusion, ← wordOfNibbles_cut hword,
    Opcode.shownBy_wordOfNibbles]
  exact wordOfNibbles_inj.symm.trans Iff.rfl

/-- The words of calls are those of one class. -/
theorem decode_eq_call_iff {word : Nat} (hword : word < 65536) :
    (∃ nnn, decode word = .call nnn) ↔ word / 0x1000 = 2 := by
  have hopcode : (∃ nnn, decode word = .call nnn) ↔ (decode word).opcode = .call := by
    cases decode word <;> simp [Instruction.opcode]
  have hclass : fourBits (word / 4096) = 2 ↔ word / 0x1000 = 2 := by
    simp only [fourBits, Fin.ext_iff, Fin.ofNat]
    omega
  rw [hopcode, opcode_decode_eq_iff Opcode.noConfusion, ← hclass]
  conv_lhs => rw [← wordOfNibbles_cut hword, Opcode.shownBy_wordOfNibbles]

/-- Decoding by masks is decoding by nibbles. -/
theorem decode_wordOfNibbles (c x y n : Nibble) :
    decode (wordOfNibbles c x y n) = Instruction.ofNibbles c x y n := by
  by_cases hshown : ∃ op : Opcode, op.ShownBy (wordOfNibbles c x y n)
  · obtain ⟨op, hop⟩ := hshown
    rw [decode_of_shownBy hop, Opcode.build_of_shownBy hop]
  · have hnone : ∀ op : Opcode, ¬ op.ShownBy (wordOfNibbles c x y n) := not_exists.1 hshown
    rw [decode_of_not_shownBy hnone]
    exact Classical.byContradiction fun hsome =>
      hnone _ (Opcode.shownBy_ofNibbles (Ne.symm hsome))

namespace Instruction

theorem encode_lt (i : Instruction) : i.encode < 65536 := by
  cases i <;> simp only [encode_eq_add, operands, List.foldl, opcode, Opcode.format, Field.weight,
    Field.shift] <;> omega

theorem shownBy_encode (i : Instruction) : i.opcode.ShownBy i.encode := by
  rw [← wordOfNibbles_cut i.encode_lt, Opcode.shownBy_wordOfNibbles]
  cases i <;> simp [encode_eq_add, operands, opcode, Opcode.format, Field.weight,
    Field.shift, fourBits, Fin.ext_iff] <;> omega

theorem build_encode (i : Instruction) : (i.opcode.build fun f => i.encode / f.weight) = i := by
  cases i <;> simp [encode_eq_add, operands, opcode, Opcode.build, Opcode.format, Field.weight,
    Field.shift, fourBits, eightBits, twelveBits, Fin.ext_iff] <;> omega

/-- The word of an instruction decodes to the instruction. -/
theorem decode_encode (i : Instruction) : decode i.encode = i := by
  rw [decode_of_shownBy i.shownBy_encode, i.build_encode]

end Instruction

end Chip8
