/-
# Printed instructions are read back

An instruction is printed as words. Folded, they are written as its own format asks for: the
mnemonic, and in each slot a keyword, a register or a numeral. So the reader, which follows the
grammar of the formats, reads the instruction back.
-/

import Chip8.Instruction.Printer
import Chip8.Proofs.Instruction.Grammar

namespace Chip8

namespace Instruction

theorem isWord_fieldText (f : Field) (value : Nat) : (fieldText f value).IsWord := by
  have hregister : Text.IsWord ('V' :: Text.hexNat value) := by
    refine ⟨List.cons_ne_nil _ _, fun c hc => ?_⟩
    rcases List.mem_cons.1 hc with rfl | hc
    · decide
    · have hpadded : c ∈ Text.hexPadded 0 value := by simpa [Text.hexPadded, Text.padZeros]
      exact Text.isPlain_of_mem_hexPadded hpadded
  have haddress : Text.IsWord ('0' :: 'x' :: Text.hexPadded 3 value) := by
    refine ⟨List.cons_ne_nil _ _, fun c hc => ?_⟩
    rcases List.mem_cons.1 hc with rfl | hc
    · decide
    rcases List.mem_cons.1 hc with rfl | hc
    · decide
    · exact Text.isPlain_of_mem_hexPadded hc
  cases f with
  | x | y => exact hregister
  | n | nn => exact Text.isWord_decimalNat value
  | nnn => exact haddress

theorem map_toLower_decimalNat (n : Nat) :
    (Text.decimalNat n).map Char.toLower = Text.decimalNat n := by
  have hfolded : ∀ d : Fin 10, (Nat.digitChar d).toLower = Nat.digitChar d := by decide
  refine (List.map_congr_left fun c hc => ?_).trans (List.map_id _)
  obtain ⟨d, rfl⟩ := Text.exists_of_mem_decimalNat hc
  exact hfolded d

theorem map_toLower_fieldText {f : Field} (hf : f.isRegister = true) (r : Reg) :
    (fieldText f r).map Char.toLower = Operand.registerToken r := by
  have hall : ∀ r : Reg, ('V' :: Text.hexNat r).map Char.toLower = Operand.registerToken r := by
    decide
  cases f with
  | x | y => exact hall r
  | n | nn | nnn => exact absurd hf (by decide)

/-- A field that is no register is printed as a numeral of its value. -/
theorem denotes_fieldText {f : Field} (hf : f.isRegister = false) (value : Nat) :
    Operand.Denotes ((fieldText f value).map Char.toLower) value := by
  cases f with
  | x | y => exact absurd hf (by decide)
  | n | nn =>
    rw [fieldText, map_toLower_decimalNat]
    exact .inl (Text.spells_decimalNat value)
  | nnn => exact .inr ⟨_, rfl, Text.spells_lower_hexPadded 3 value⟩

/-- What is printed in a field is short. -/
theorem length_fieldText_le {f : Field} {value : Nat} (hvalue : value < f.limit) :
    (fieldText f value).length ≤ 5 := by
  have hdecimal : value < 10 ^ 3 → (Text.decimalNat value).length ≤ 3 :=
    (Nat.length_toDigits_le_iff (by omega) (by omega)).2
  have hexadecimal : value < 16 ^ 3 → (Nat.toDigits 16 value).length ≤ 3 :=
    (Nat.length_toDigits_le_iff (by omega) (by omega)).2
  have hlimit : f.limit ≤ 16 ^ 3 := by cases f <;> decide
  cases f with
  | x | y =>
    simp only [fieldText, Text.hexNat, List.length_cons, List.length_map]
    omega
  | n | nn =>
    have hsmall : value < 10 ^ 3 := Nat.lt_of_lt_of_le hvalue (by decide)
    exact Nat.le_trans (hdecimal hsmall) (by decide)
  | nnn =>
    simp only [fieldText, Text.hexPadded, Text.padZeros, Text.hexNat, List.length_cons,
      List.length_append, List.length_replicate, List.length_map]
    omega

theorem operand_lt_limit (i : Instruction) (f : Field) : i.operand f < f.limit := by
  rw [operand]
  cases hlookup : i.operands.lookup f with
  | none => cases f <;> decide
  | some value =>
    obtain ⟨_, _, hoperands, -⟩ := List.lookup_eq_some_iff.1 hlookup
    exact lt_limit_of_mem_operands (i := i) (by rw [hoperands]; simp)

/-- The token that the reader gets for a slot. -/
def token (i : Instruction) (slot : Slot) : Text := (i.slotText slot).map Char.toLower

/-- What is printed in a slot is written as the slot asks for. -/
theorem spells_token (i : Instruction) (slot : Slot) : slot.Spells i.operand (i.token slot) := by
  cases slot with
  | keyword k => exact .keyword k
  | field f =>
    have hvalue := i.operand_lt_limit f
    cases hf : f.isRegister with
    | true =>
      have hlimit : f.limit = 16 := by cases f <;> first | rfl | exact absurd hf (by decide)
      have htoken := map_toLower_fieldText hf ⟨i.operand f, hlimit ▸ hvalue⟩
      rw [token, slotText, htoken]
      exact .register hf (hlimit ▸ hvalue)
    | false =>
      rw [Field.limit, Nat.one_shiftLeft] at hvalue
      exact .number hf (denotes_fieldText hf (i.operand f)) hvalue

/-- A slot accepts what is printed in it. -/
theorem accepts_token (i : Instruction) (slot : Slot) : slot.accepts (i.token slot) = true :=
  Slot.accepts_of_spells (i.spells_token slot)

theorem length_token_le (i : Instruction) (slot : Slot) : (i.token slot).length ≤ 5 := by
  have hkeyword : ∀ k : Keyword, k.text.length ≤ 5 := by
    intro k
    cases k <;> decide
  rw [token, List.length_map]
  cases slot with
  | keyword k => exact hkeyword k
  | field f => exact length_fieldText_le (i.operand_lt_limit f)

theorem isWord_printedWords (i : Instruction) : ∀ w ∈ i.printedWords, Text.IsWord w := by
  have hmnemonic : ∀ op ∈ Opcode.all, Text.IsWord op.format.mnemonic := by decide
  have hkeyword : ∀ k : Keyword, Text.IsWord k.text := by
    intro k
    cases k <;> decide
  intro w hw
  rcases List.mem_cons.1 hw with rfl | hw
  · exact hmnemonic i.opcode (Opcode.mem_all i.opcode)
  · obtain ⟨slot, -, rfl⟩ := List.mem_map.1 hw
    cases slot with
    | keyword k => exact hkeyword k
    | field f => exact isWord_fieldText f (i.operand f)

theorem isStatement_text (i : Instruction) : i.text.IsStatement :=
  Text.isStatement_join (List.cons_ne_nil _ _) i.isWord_printedWords

/-- The mnemonic as the reader gets it. -/
def foldedMnemonic (i : Instruction) : Text := i.opcode.format.mnemonic.map Char.toLower

/-- Folding and cutting the text of an instruction gives its mnemonic and its tokens. -/
theorem words_lower_text (i : Instruction) :
    Text.words (Text.lower i.text) = i.foldedMnemonic :: i.opcode.format.slots.map i.token := by
  have hne : i.printedWords ≠ [] := List.cons_ne_nil _ _
  rw [text, Text.words_lower_join hne i.isWord_printedWords, printedWords, List.map_cons,
    List.map_map]
  rfl

theorem foldedWords_text (i : Instruction) :
    foldedWords i.text = i.foldedMnemonic :: i.opcode.format.slots.map i.token := by
  rw [foldedWords_eq i.isStatement_text, i.words_lower_text]

/-- The words of an instruction are too short to meet the bound on decimal digits. -/
theorem not_meetsLimit_text (i : Instruction) :
    ∀ w ∈ foldedWords i.text, ¬ Operand.MeetsLimit w := by
  have hmnemonic : ∀ op ∈ Opcode.all, op.format.mnemonic.length ≤ 5 := by decide
  have hlength : ∀ w ∈ foldedWords i.text, w.length ≤ 5 := by
    rw [i.foldedWords_text]
    intro w hw
    rcases List.mem_cons.1 hw with rfl | hw
    · rw [foldedMnemonic, List.length_map]
      exact hmnemonic i.opcode (Opcode.mem_all i.opcode)
    · obtain ⟨slot, -, rfl⟩ := List.mem_map.1 hw
      exact i.length_token_le slot
  intro w hw
  have hshort := hlength w hw
  exact Operand.not_meetsLimit_of_short (by rw [Text.maxDecimalDigits]; omega)

theorem writtenAs_text (i : Instruction) : i.WrittenAs (foldedWords i.text) :=
  ⟨i.opcode.format.slots.map i.token, i.foldedWords_text,
    List.forall₂_map_right_iff.2 (List.forall₂_same.2 fun slot _ => i.spells_token slot)⟩

/-- The text of an instruction is read back as the instruction. -/
theorem read_text (i : Instruction) : read i.text = .ok i :=
  read_of_writtenAs i.not_meetsLimit_text i.writtenAs_text

end Instruction

end Chip8
