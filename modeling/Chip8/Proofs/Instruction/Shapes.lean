/-
# The shapes of operands

The reader selects the format of a mnemonic by the shape of the operand tokens: a register, a
keyword, or anything else. Formats of one mnemonic differ in shape, so no row of tokens is accepted
by two of them, and the order in which the reader tries them does not matter.
-/

import Chip8.Program.Statements
import Chip8.Proofs.Text.Words

namespace Chip8

namespace Operand

/-- A token as numerals are: folded, with a decimal digit in front. -/
def IsNumeral (token : Text) : Prop :=
  token.IsFolded ∧ ∃ (d : Fin 10) (rest : Text), token = Nat.digitChar d :: rest

section Numerals

variable {token : Text} (hnumeral : IsNumeral token)
include hnumeral

theorem isRegister_of_isNumeral : isRegister token = false := by
  have hhead : ∀ d : Fin 10, Nat.digitChar d ≠ 'v' := by decide
  obtain ⟨hfolded, d, rest, rfl⟩ := hnumeral
  rw [isRegister, register?, hfolded.lower_eq]
  split
  · rename_i heq
    exact absurd (List.cons.inj heq).1 (hhead d)
  · rfl

theorem isKeyword_of_isNumeral : isKeyword token = false := by
  have hhead : ∀ (k : Keyword), k ∈ Keyword.all → ∀ d : Fin 10,
      k.text.head? ≠ some (Nat.digitChar d).toUpper := by decide
  obtain ⟨hfolded, d, rest, rfl⟩ := hnumeral
  have hascii : ∀ c ∈ Nat.digitChar d :: rest, c.toNat < 0x80 := fun c hc =>
    Nat.lt_trans (Text.isPlain_range (hfolded c hc).1).2 (by decide)
  rw [isKeyword, Text.asciiUpper_eq_map hascii]
  simp only [List.any_eq_false, beq_iff_eq]
  intro k hk heq
  exact hhead k hk d (by rw [heq]; rfl)

theorem isLabelName_of_isNumeral : isLabelName token = false := by
  have hhead : ∀ d : Fin 10, isLabelStart (Nat.digitChar d) = false := by decide
  obtain ⟨-, d, rest, rfl⟩ := hnumeral
  rw [isLabelName, hhead d, Bool.false_and]

end Numerals

/-- The folded token of a register. -/
def registerToken (r : Reg) : Text := ['v', Nat.digitChar r]

theorem register?_registerToken (r : Reg) : register? (registerToken r) = some r := by
  revert r
  decide

end Operand

namespace Slot

/-- Slots that could accept the same token. Only `V0` is a register and a keyword as well. -/
def overlaps : Slot → Slot → Bool
  | .field f, .field f' => f.isRegister == f'.isRegister
  | .keyword k, .keyword k' => k == k'
  | .field f, .keyword k | .keyword k, .field f => f.isRegister && k == .v0

/-- A keyword is a register only if it is `V0`, and it is never a number. -/
theorem accepts_lowerText (f : Field) (k : Keyword) :
    (Slot.field f).accepts k.lowerText = (f.isRegister && k == .v0) := by
  cases f <;> cases k <;> decide

theorem overlaps_of_accepts {slot slot' : Slot} {token : Text} (h : slot.accepts token = true)
    (h' : slot'.accepts token = true) : slot.overlaps slot' = true := by
  cases slot with
  | keyword k =>
    obtain rfl : token = k.lowerText := beq_iff_eq.1 h
    cases slot' with
    | keyword k' => 
      have hk : k.lowerText = k'.lowerText := beq_iff_eq.1 h'
      revert hk
      cases k <;> cases k' <;> decide
    | field f' => exact (accepts_lowerText f' k).symm.trans h'
  | field f =>
    cases slot' with
    | keyword k' =>
      obtain rfl : token = k'.lowerText := beq_iff_eq.1 h'
      exact (accepts_lowerText f k').symm.trans h
    | field f' =>
      simp only [accepts] at h h'
      simp only [overlaps]
      cases hf : f.isRegister <;> cases hf' : f'.isRegister <;> simp_all

end Slot

namespace Format

/-- Slots in a row that accept the same tokens overlap one by one. -/
theorem all_overlaps {slots slots' : List Slot} {tokens : List Text}
    (hlength : slots.length = tokens.length)
    (h : (slots.zip tokens).all (fun (slot, token) => slot.accepts token) = true)
    (h' : (slots'.zip tokens).all (fun (slot, token) => slot.accepts token) = true) :
    (slots.zip slots').all (fun (slot, slot') => slot.overlaps slot') = true := by
  induction slots generalizing slots' tokens with
  | nil => rfl
  | cons slot rest ih =>
    cases slots' with
    | nil => rfl
    | cons slot' rest' =>
      cases tokens with
      | nil => simp at hlength
      | cons token tokens =>
        simp only [List.zip_cons_cons, List.all_cons, Bool.and_eq_true] at h h' ⊢
        exact ⟨Slot.overlaps_of_accepts h.1 h'.1, ih (Nat.succ.inj hlength) h.2 h'.2⟩

/-- Formats of one mnemonic that accept the same tokens are the same. -/
theorem eq_of_accepts {op op' : Opcode} {tokens : List Text}
    (hmnemonic : op.format.mnemonic.map Char.toLower = op'.format.mnemonic.map Char.toLower)
    (h : op.format.accepts tokens = true) (h' : op'.format.accepts tokens = true) : op = op' := by
  have hdistinct : ∀ op ∈ Opcode.all, ∀ op' ∈ Opcode.all,
      op.format.mnemonic.map Char.toLower = op'.format.mnemonic.map Char.toLower →
      op.format.slots.length = op'.format.slots.length →
      (op.format.slots.zip op'.format.slots).all (fun (slot, slot') => slot.overlaps slot') = true →
      op = op' := by
    decide +kernel
  -- Tokens are unbounded, but what two formats accept alike shows in their slots, and the table is
  -- finite.
  simp only [accepts, Bool.and_eq_true, beq_iff_eq] at h h'
  exact hdistinct op (Opcode.mem_all op) op' (Opcode.mem_all op') hmnemonic (h.1.trans h'.1.symm)
    (all_overlaps h.1 h.2 h'.2)

end Format

end Chip8
