/-
# Operands as they are written

The reader tells operands apart by their shape, and then reads each in its slot. What it reads is
described here without the reader: a keyword in lower case, a register as `v` and one hexadecimal
digit, a number as decimal digits or as hexadecimal ones behind `0x`. Tokens reach the reader folded
and cut at blanks, which is why no other spelling of a digit or a mark gets through.
-/

import Mathlib.Data.List.Forall2
import Chip8.Proofs.Instruction.Shapes
import Chip8.Proofs.Text.Folding
import Chip8.Proofs.Text.Numerals

namespace Chip8

open Text (IsSettledWord)

namespace Operand

/-- The token is a numeral of this value: decimal digits, or hexadecimal ones behind the mark
`0x`. -/
def Denotes (token : Text) (value : Nat) : Prop :=
  token.Spells 10 value ∨ ∃ digits : Text, token = '0' :: 'x' :: digits ∧ digits.Spells 16 value

/-- The token is a numeral that meets the bound on decimal digits: it has more of them itself, or
its value does. -/
inductive MeetsLimit (token : Text) : Prop
  | decimal {value : Nat} (spells : token.Spells 10 value)
      (long : Text.maxDecimalDigits < token.length)
  | hexadecimal {digits : Text} {value : Nat} (mark : token = '0' :: 'x' :: digits)
      (spells : digits.Spells 16 value) (large : 10 ^ Text.maxDecimalDigits ≤ value)

end Operand

namespace Text

theorem IsFolded.ascii {w : Text} (hw : w.IsFolded) : ∀ c ∈ w, c.toNat < 0x80 := fun c hc =>
  Nat.lt_trans (isPlain_range (hw c hc).1).2 (by decide)

theorem IsFolded.cons {c : Char} {w : Text} (hc : isPlain c = true ∧ c.toLower = c)
    (hw : w.IsFolded) : IsFolded (c :: w) := by
  intro d hd
  rcases List.mem_cons.1 hd with rfl | hd
  · exact hc
  · exact hw d hd

end Text

namespace Operand

section Numerals

variable {token : Text} {value : Nat}

theorem Denotes.isNumeral (hdenotes : Denotes token value) : IsNumeral token := by
  rcases hdenotes with hdecimal | ⟨digits, rfl, hspells⟩
  · refine ⟨hdecimal.isFolded (by decide), ?_⟩
    obtain ⟨digits, hne, hdigits, rfl, -⟩ := hdecimal
    obtain ⟨d, rest, rfl⟩ := List.exists_cons_of_ne_nil hne
    exact ⟨⟨d, hdigits d List.mem_cons_self⟩, _, List.map_cons⟩
  · have hfolded := hspells.isFolded (Nat.le_refl 16)
    exact ⟨(hfolded.cons (by decide)).cons (by decide), 0, 'x' :: digits, rfl⟩

/-- Decimal digits hold no mark of base sixteen. -/
theorem not_mark_of_spells {digits : Text} : ¬ Text.Spells ('0' :: 'x' :: digits) 10 value := by
  have hdigit : ∀ d : Fin 10, Nat.digitChar d ≠ 'x' := by decide
  rintro ⟨values, -, hvalues, htext, -⟩
  have hmark : 'x' ∈ values.map Nat.digitChar := htext ▸ by simp
  obtain ⟨d, hd, hx⟩ := List.mem_map.1 hmark
  exact hdigit ⟨d, hvalues d hd⟩ hx

theorem readDigits?_ten_iff {t : Text} :
    Text.readDigits? 10 Text.digitValue? t = some value ↔ t.Spells 10 value :=
  Text.readDigits?_eq_some_iff fun _ _ _ => Text.digitValue?_eq_some_iff

theorem readDigits?_sixteen_iff {t : Text} (ht : ∀ c ∈ t, Text.IsSettled c) :
    Text.readDigits? 16 Text.hexValue? t = some value ↔ t.Spells 16 value :=
  Text.readDigits?_eq_some_iff fun c hc _ => Text.hexValue?_eq_some_iff (ht c hc).noCapital

/-- A token that is read as a numeral is one. -/
theorem numeral?_cases (hw : IsSettledWord token) {result : Except DigitLimit Nat}
    (hread : numeral? token = some result) :
    (∃ value, token.Spells 10 value ∧
      result = if token.length > Text.maxDecimalDigits then .error (.reading token.length)
        else .ok value) ∨
    ∃ digits value, token = '0' :: 'x' :: digits ∧ Text.Spells digits 16 value ∧
      result = .ok value := by
  have hsettled : ∀ c ∈ Text.dropFinalLineFeed (Text.lower token), Text.IsSettled c := fun c hc =>
    Text.isSettled_of_mem_lower (Text.mem_of_mem_dropFinalLineFeed hc)
  rw [numeral?] at hread
  split at hread
  · rename_i digits hmark
    obtain ⟨value, hvalue, rfl⟩ := Option.map_eq_some_iff.1 hread
    have hspells : Text.Spells digits 16 value := (readDigits?_sixteen_iff fun c hc =>
      hsettled c (hmark ▸ List.mem_cons_of_mem _ (List.mem_cons_of_mem _ hc))).1 hvalue
    have hfolded := ((hspells.isFolded (Nat.le_refl 16)).cons (c := 'x') (by decide)).cons
      (c := '0') (by decide)
    have htoken := hw.eq_of_ascii (hmark ▸ hfolded.ascii)
    exact .inr ⟨digits, value, htoken.symm.trans hmark, hspells, rfl⟩
  · obtain ⟨value, hvalue, rfl⟩ := Option.map_eq_some_iff.1 hread
    have hspells := readDigits?_ten_iff.1 hvalue
    have htoken := hw.eq_of_ascii (hspells.isFolded (by decide)).ascii
    rw [htoken] at hspells ⊢
    exact .inl ⟨value, hspells, rfl⟩

theorem numeral?_of_spells_ten (hspells : token.Spells 10 value) :
    numeral? token = some (if token.length > Text.maxDecimalDigits then
      .error (.reading token.length) else .ok value) := by
  rw [numeral?, (hspells.isFolded (by decide)).lower_eq]
  split
  · exact absurd hspells not_mark_of_spells
  · rw [readDigits?_ten_iff.2 hspells, Option.map_some]

theorem numeral?_of_spells_sixteen {digits : Text} (hspells : digits.Spells 16 value) :
    numeral? ('0' :: 'x' :: digits) = some (.ok value) := by
  have hfolded := hspells.isFolded (Nat.le_refl 16)
  have hread : Text.readDigits? 16 Text.hexValue? digits = some value :=
    (Text.readDigits?_eq_some_iff fun c hc _ => Text.hexValue?_eq_some_iff (hfolded c hc).2).2
      hspells
  rw [numeral?, ((hfolded.cons (c := 'x') (by decide)).cons (by decide)).lower_eq]
  show (Text.readDigits? 16 Text.hexValue? digits).map _ = _
  rw [hread, Option.map_some]

/-- Only a numeral that meets the bound on decimal digits stops the reader of numbers. -/
theorem meetsLimit_of_readNumber (hw : IsSettledWord token) {width : Nat} {bound : DigitLimit}
    (hread : readNumber token width = .error (.limit bound)) : MeetsLimit token := by
  rw [readNumber] at hread
  cases hnumeral : numeral? token with
  | none =>
    rw [hnumeral] at hread
    cases hread
  | some result =>
    rw [hnumeral] at hread
    rcases numeral?_cases hw hnumeral with
      ⟨value, hspells, rfl⟩ | ⟨digits, value, hmark, hspells, rfl⟩
    · by_cases hlong : token.length > Text.maxDecimalDigits
      · exact .decimal hspells hlong
      · -- A decimal numeral within the bound has a value within it.
        have hvalue : value < 10 ^ Text.maxDecimalDigits :=
          Nat.lt_of_lt_of_le hspells.lt_pow (Nat.pow_le_pow_right (by decide) (Nat.not_lt.1 hlong))
        simp only [if_neg hlong, Nat.pow_eq] at hread
        split at hread
        · cases hread
        · split at hread
          · rename_i hlarge
            omega
          · cases hread
    · simp only [Nat.pow_eq] at hread
      split at hread
      · cases hread
      · split at hread
        · rename_i hlarge
          exact .hexadecimal hmark hspells (by omega)
        · cases hread

/-- A word of half as many characters does not meet the bound. -/
theorem not_meetsLimit_of_short (hshort : 2 * token.length ≤ Text.maxDecimalDigits) :
    ¬ MeetsLimit token := by
  rintro (⟨-, hlong⟩ | ⟨rfl, hspells, hlarge⟩)
  · omega
  · rename_i digits value
    have hdigits : 2 * digits.length ≤ Text.maxDecimalDigits := by
      simp only [List.length_cons] at hshort
      omega
    -- One hexadecimal digit says less than two decimal ones.
    have hvalue : value < 10 ^ Text.maxDecimalDigits :=
      calc value < 16 ^ digits.length := hspells.lt_pow
        _ ≤ (10 ^ 2) ^ digits.length := Nat.pow_le_pow_left (by decide) _
        _ = 10 ^ (2 * digits.length) := (Nat.pow_mul 10 2 _).symm
        _ ≤ 10 ^ Text.maxDecimalDigits := Nat.pow_le_pow_right (by decide) hdigits
    exact absurd hvalue (Nat.not_lt.2 hlarge)

theorem readNumber_eq_ok {width : Nat} (hread : readNumber token width = .ok value) :
    numeral? token = some (.ok value) ∧ value < 2 ^ width := by
  rw [readNumber] at hread
  split at hread
  · cases hread
  · cases hread
  · rename_i found hnumeral
    rw [Nat.one_shiftLeft] at hread
    split at hread
    · rename_i hsmall
      obtain rfl := Except.ok.inj hread
      exact ⟨hnumeral, hsmall⟩
    · split at hread <;> cases hread

theorem denotes_of_numeral? (hw : IsSettledWord token) (hread : numeral? token = some (.ok value)) :
    Denotes token value := by
  rcases numeral?_cases hw hread with
    ⟨found, hspells, hresult⟩ | ⟨digits, found, hmark, hspells, hresult⟩
  · split at hresult
    · cases hresult
    · exact .inl (Except.ok.inj hresult ▸ hspells)
  · exact .inr ⟨digits, hmark, Except.ok.inj hresult ▸ hspells⟩

theorem readNumber_of_denotes (hlimit : ¬ MeetsLimit token) (hdenotes : Denotes token value)
    {width : Nat} (hvalue : value < 2 ^ width) : readNumber token width = .ok value := by
  have hnumeral : numeral? token = some (.ok value) := by
    rcases hdenotes with hspells | ⟨digits, rfl, hspells⟩
    · have hshort : ¬ token.length > Text.maxDecimalDigits := fun hlong =>
        hlimit (.decimal hspells hlong)
      rw [numeral?_of_spells_ten hspells, if_neg hshort]
    · exact numeral?_of_spells_sixteen hspells
  simp [readNumber, hnumeral, Nat.one_shiftLeft, hvalue]

end Numerals

/-- A word names a register exactly if it is `v` and a hexadecimal digit. -/
theorem register?_eq_some_iff {token : Text} (hw : IsSettledWord token) {r : Reg} :
    register? token = some r ↔ token = registerToken r := by
  constructor
  · intro hread
    rw [register?] at hread
    split at hread
    · rename_i digit hfolded
      obtain ⟨value, hvalue, rfl⟩ := Option.map_eq_some_iff.1 hread
      have hmem : digit ∈ Text.dropFinalLineFeed (Text.lower token) := by simp [hfolded]
      have hsettled := Text.isSettled_of_mem_lower (Text.mem_of_mem_dropFinalLineFeed hmem)
      obtain ⟨hlt, rfl⟩ := (Text.hexValue?_eq_some_iff hsettled.noCapital).1 hvalue
      have hreg : (fourBits value).val = value := Nat.mod_eq_of_lt hlt
      have hdigit : ∀ d : Fin 16, (Nat.digitChar d).toNat < 0x80 := by decide
      have hascii : ∀ c ∈ ['v', Nat.digitChar value], c.toNat < 0x80 := by
        intro c hc
        rcases List.mem_pair.1 hc with rfl | rfl
        · decide
        · exact hdigit ⟨value, hlt⟩
      rw [registerToken, hreg, ← hfolded, hw.eq_of_ascii (hfolded ▸ hascii)]
    · cases hread
  · rintro rfl
    exact register?_registerToken r

end Operand

/-! ## Slots -/

namespace Slot

/-- The token is written as the slot asks for: a keyword in lower case, the number of a register
behind `v`, or a numeral of a value that the field can hold. The fields have the given values. -/
inductive Spells (value : Field → Nat) : Slot → Text → Prop
  | keyword (k : Keyword) : Spells value (.keyword k) k.lowerText
  | register {f : Field} (isRegister : f.isRegister = true) (inRange : value f < 16) :
      Spells value (.field f) ['v', Nat.digitChar (value f)]
  | number {f : Field} {token : Text} (noRegister : f.isRegister = false)
      (denotes : Operand.Denotes token (value f)) (inRange : value f < 2 ^ f.width) :
      Spells value (.field f) token

variable {slot : Slot} {token : Text} {value : Field → Nat}

/-- What is read in the slot of a field is the number of a register, or a number. -/
theorem read_field_eq_ok {f : Field} {found : Option (Field × Nat)}
    (hread : (Slot.field f).read token = .ok found) :
    (f.isRegister = true ∧ ∃ r : Reg, Operand.register? token = some r ∧
      found = some (f, r.val)) ∨
    f.isRegister = false ∧ ∃ n, Operand.readNumber token f.width = .ok n ∧
      found = some (f, n) := by
  rw [read] at hread
  split at hread
  · rename_i hf
    rw [Operand.readRegister] at hread
    cases hregister : Operand.register? token with
    | none => simp [hregister, Except.map] at hread
    | some r =>
      rw [hregister] at hread
      exact .inl ⟨hf, r, rfl, (Except.ok.inj hread).symm⟩
  · rename_i hf
    cases hnumber : Operand.readNumber token f.width with
    | error cause => simp [hnumber, Except.map] at hread
    | ok n =>
      rw [hnumber] at hread
      exact .inr ⟨Bool.eq_false_iff.2 hf, n, rfl, (Except.ok.inj hread).symm⟩

/-- A token that has the shape of a slot and is read there is written as the slot asks for. -/
theorem spells_of_read (hw : IsSettledWord token) {found : Option (Field × Nat)}
    (haccepts : slot.accepts token = true) (hread : slot.read token = .ok found)
    (hvalue : ∀ p ∈ found, value p.1 = p.2) : slot.Spells value token := by
  cases slot with
  | keyword k =>
    obtain rfl : token = k.lowerText := beq_iff_eq.1 haccepts
    exact .keyword k
  | field f =>
    rcases read_field_eq_ok hread with ⟨hf, r, hregister, rfl⟩ | ⟨hf, n, hnumber, rfl⟩
    · obtain rfl := (Operand.register?_eq_some_iff hw).1 hregister
      have hr : value f = r := hvalue (f, r.val) rfl
      rw [Operand.registerToken, ← hr]
      exact .register hf (hr ▸ r.isLt)
    · have hn : value f = n := hvalue (f, n) rfl
      obtain ⟨hnumeral, hrange⟩ := Operand.readNumber_eq_ok hnumber
      exact .number hf (hn ▸ Operand.denotes_of_numeral? hw hnumeral) (hn ▸ hrange)

/-- What is read in a slot is a value of its field. -/
theorem map_fst_of_read {found : Option (Field × Nat)} (hread : slot.read token = .ok found) :
    found.map Prod.fst = slot.field? := by
  cases slot with
  | keyword k =>
    obtain rfl := Except.ok.inj hread
    rfl
  | field f =>
    rcases read_field_eq_ok hread with ⟨-, r, -, rfl⟩ | ⟨-, n, -, rfl⟩ <;> rfl

/-- The value fits the field. -/
theorem lt_limit_of_read {f : Field} {n : Nat} (hread : slot.read token = .ok (some (f, n))) :
    n < f.limit := by
  cases slot with
  | keyword k => cases hread
  | field g =>
    rcases read_field_eq_ok hread with ⟨hg, r, -, hfound⟩ | ⟨-, m, hnumber, hfound⟩
    · obtain ⟨rfl, rfl⟩ := Prod.mk.inj (Option.some.inj hfound)
      have hlimit : f.limit = 16 := by cases f <;> first | rfl | cases hg
      rw [hlimit]
      exact r.isLt
    · obtain ⟨rfl, rfl⟩ := Prod.mk.inj (Option.some.inj hfound)
      rw [Field.limit, Nat.one_shiftLeft]
      exact (Operand.readNumber_eq_ok hnumber).2

/-- A token that is written as a slot asks for has its shape. -/
theorem accepts_of_spells (hspells : slot.Spells value token) : slot.accepts token = true := by
  cases hspells with
  | keyword k => exact beq_self_eq_true _
  | @register f hf hrange =>
    have htoken := Operand.register?_registerToken ⟨value f, hrange⟩
    rw [Operand.registerToken] at htoken
    simp [accepts, hf, Operand.isRegister, htoken]
  | number hf hdenotes =>
    simp [accepts, hf, Operand.isRegister_of_isNumeral hdenotes.isNumeral,
      Operand.isKeyword_of_isNumeral hdenotes.isNumeral]

/-- It is read as the value of its field, unless it meets the bound on decimal digits. -/
theorem read_of_spells (hlimit : ¬ Operand.MeetsLimit token) (hspells : slot.Spells value token) :
    slot.read token = .ok (slot.field?.map fun f => (f, value f)) := by
  cases hspells with
  | keyword k => rfl
  | @register f hf hrange =>
    have htoken := Operand.register?_registerToken ⟨value f, hrange⟩
    rw [Operand.registerToken] at htoken
    simp only [read, hf, if_true, Operand.readRegister, htoken]
    rfl
  | number hf hdenotes hrange =>
    simp only [read, hf, Bool.false_eq_true, if_false,
      Operand.readNumber_of_denotes hlimit hdenotes hrange]
    rfl

/-- Only a numeral that meets the bound on decimal digits stops the reader of a slot. -/
theorem meetsLimit_of_read (hw : IsSettledWord token) {bound : DigitLimit}
    (hread : slot.read token = .error (.limit bound)) : Operand.MeetsLimit token := by
  cases slot with
  | keyword k => cases hread
  | field f =>
    rw [read] at hread
    split at hread
    · rw [Operand.readRegister] at hread
      split at hread <;> cases hread
    · cases hnumber : Operand.readNumber token f.width with
      | ok n =>
        rw [hnumber] at hread
        cases hread
      | error cause =>
        rw [hnumber] at hread
        obtain rfl : cause = .limit bound := by simpa [Except.map] using hread
        exact Operand.meetsLimit_of_readNumber hw hnumber

end Slot

/-! ## Rows of slots -/

namespace Instruction

section Rows

variable {slot : Slot} {slots : List Slot} {token : Text} {tokens : List Text}
  {found : List (Field × Nat)}

theorem readSlots_cons_eq_ok : readSlots (slot :: slots) (token :: tokens) = .ok found ↔
    ∃ first others, slot.read token = .ok first ∧ readSlots slots tokens = .ok others ∧
      found = first.toList ++ others := by
  rw [readSlots]
  cases slot.read token with
  | error cause => simp [bind, Except.bind]
  | ok first =>
    cases readSlots slots tokens with
    | error cause => simp [bind, Except.bind]
    | ok others => simp [bind, Except.bind, pure, Except.pure, eq_comm]

/-- The values that are read belong to the fields of the slots, in order. -/
theorem map_fst_of_readSlots (hlength : slots.length = tokens.length)
    (hread : readSlots slots tokens = .ok found) :
    found.map Prod.fst = slots.filterMap Slot.field? := by
  induction slots generalizing tokens found with
  | nil =>
    obtain rfl := Except.ok.inj hread
    rfl
  | cons slot rest ih =>
    cases tokens with
    | nil => cases hlength
    | cons token tokens =>
      obtain ⟨first, others, hfirst, hothers, rfl⟩ := readSlots_cons_eq_ok.1 hread
      have hfield := Slot.map_fst_of_read hfirst
      rw [List.map_append, ih (Nat.succ.inj hlength) hothers, List.filterMap_cons, ← hfield]
      cases first <;> rfl

theorem lt_limit_of_readSlots (hlength : slots.length = tokens.length)
    (hread : readSlots slots tokens = .ok found) : ∀ p ∈ found, p.2 < p.1.limit := by
  induction slots generalizing tokens found with
  | nil =>
    obtain rfl := Except.ok.inj hread
    simp
  | cons slot rest ih =>
    cases tokens with
    | nil => cases hlength
    | cons token tokens =>
      obtain ⟨first, others, hfirst, hothers, rfl⟩ := readSlots_cons_eq_ok.1 hread
      intro p hp
      rcases List.mem_append.1 hp with hp | hp
      · rw [Option.mem_toList.1 hp] at hfirst
        exact Slot.lt_limit_of_read hfirst
      · exact ih (Nat.succ.inj hlength) hothers p hp

/-- Tokens that have the shape of a row of slots and are read there are written as the slots ask
for. -/
theorem forall₂_spells_of_readSlots {value : Field → Nat} (hwords : ∀ w ∈ tokens, IsSettledWord w)
    (hlength : slots.length = tokens.length)
    (haccepts : (slots.zip tokens).all (fun (slot, token) => slot.accepts token) = true)
    (hread : readSlots slots tokens = .ok found) (hvalue : ∀ p ∈ found, value p.1 = p.2) :
    List.Forall₂ (Slot.Spells value) slots tokens := by
  induction slots generalizing tokens found with
  | nil =>
    cases tokens with
    | nil => exact .nil
    | cons token tokens => cases hlength
  | cons slot rest ih =>
    cases tokens with
    | nil => cases hlength
    | cons token tokens =>
      obtain ⟨first, others, hfirst, hothers, rfl⟩ := readSlots_cons_eq_ok.1 hread
      simp only [List.zip_cons_cons, List.all_cons, Bool.and_eq_true] at haccepts
      refine .cons ?_ ?_
      · exact Slot.spells_of_read (hwords token List.mem_cons_self) haccepts.1 hfirst
          fun p hp => hvalue p (List.mem_append_left _ (Option.mem_toList.2 hp))
      · exact ih (fun w hw => hwords w (List.mem_cons_of_mem token hw)) (Nat.succ.inj hlength)
          haccepts.2 hothers fun p hp => hvalue p (List.mem_append_right _ hp)

theorem all_accepts_of_spells {value : Field → Nat}
    (hspells : List.Forall₂ (Slot.Spells value) slots tokens) :
    (slots.zip tokens).all (fun (slot, token) => slot.accepts token) = true := by
  induction hspells with
  | nil => rfl
  | cons hfirst _ ih => simp [Slot.accepts_of_spells hfirst, ih]

theorem readSlots_of_spells {value : Field → Nat}
    (hlimit : ∀ w ∈ tokens, ¬ Operand.MeetsLimit w)
    (hspells : List.Forall₂ (Slot.Spells value) slots tokens) :
    readSlots slots tokens = .ok ((slots.filterMap Slot.field?).map fun f => (f, value f)) := by
  induction hspells with
  | nil => rfl
  | @cons slot token _ _ hfirst _ ih =>
    have hread := Slot.read_of_spells (hlimit token List.mem_cons_self) hfirst
    refine readSlots_cons_eq_ok.2
      ⟨_, _, hread, ih fun w hw => hlimit w (List.mem_cons_of_mem token hw), ?_⟩
    cases slot <;> rfl

theorem meetsLimit_of_readSlots (hwords : ∀ w ∈ tokens, IsSettledWord w) {bound : DigitLimit}
    (hread : readSlots slots tokens = .error (.limit bound)) :
    ∃ w ∈ tokens, Operand.MeetsLimit w := by
  induction slots generalizing tokens with
  | nil => cases hread
  | cons slot rest ih =>
    cases tokens with
    | nil => cases hread
    | cons token tokens =>
      have hrest := fun w hw => hwords w (List.mem_cons_of_mem token hw)
      rw [readSlots] at hread
      cases hfirst : slot.read token with
      | error cause =>
        rw [hfirst] at hread
        obtain rfl := Except.error.inj hread
        exact ⟨token, List.mem_cons_self,
          Slot.meetsLimit_of_read (hwords token List.mem_cons_self) hfirst⟩
      | ok first =>
        rw [hfirst] at hread
        cases hothers : readSlots rest tokens with
        | ok others => simp [bind, Except.bind, pure, Except.pure, hothers] at hread
        | error cause =>
          simp only [bind, Except.bind, hothers] at hread
          obtain rfl := Except.error.inj hread
          obtain ⟨w, hw, hmeets⟩ := ih hrest hothers
          exact ⟨w, List.mem_cons_of_mem token hw, hmeets⟩

end Rows

end Instruction

end Chip8
