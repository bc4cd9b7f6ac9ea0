/-
# The grammar of instructions

A text is reduced to words: it is trimmed, turns to lower case, loses one final semicolon and is cut
at its blanks. The reader accepts them as an instruction exactly if they are its mnemonic and then
one word for each slot of its format, as the slot asks for. Formats that share a mnemonic share no
row of words, so the order in which the formats stand in the table has no say. Only a numeral beyond
the bound on decimal digits keeps the reader from an answer, so that bound is a hypothesis
throughout.
-/

import Mathlib.Data.List.Perm.Basic
import Chip8.Proofs.Instruction.Building
import Chip8.Proofs.Instruction.Operands
import Chip8.Proofs.Text.Spacing

namespace Chip8

open Text (IsSettledWord)

namespace Instruction

/-- The text is reduced to these words step by step: the blanks at its ends go, it turns to lower
case, one semicolon at its end goes, and what is left falls into the words. -/
inductive FoldsTo (t : Text) (ws : List Text) : Prop
  | unended {core : Text} (trims : t.TrimsTo core) (stays : (Text.lower core).getLast? ≠ some ';')
      (falls : (Text.lower core).FallsInto ws)
  | ended {core body : Text} (trims : t.TrimsTo core) (ends : Text.lower core = body ++ [';'])
      (falls : body.FallsInto ws)

/-- The words are the instruction in the notation of its format: the mnemonic in lower case, then
one word for each slot, with the values that the instruction has in its fields. -/
def WrittenAs (i : Instruction) (words : List Text) : Prop :=
  ∃ tokens, words = i.opcode.format.mnemonic.map Char.toLower :: tokens ∧
    List.Forall₂ (Slot.Spells i.operand) i.opcode.format.slots tokens

variable {t : Text} {i : Instruction} {rows : List (Opcode × Format)} {mnemonic : Text}
  {tokens : List Text}

theorem foldsTo_iff {ws : List Text} : FoldsTo t ws ↔ foldedWords t = ws := by
  have hended : ∀ body : Text, ((body ++ [';']).getLast? == some ';') = true := by simp
  constructor
  · intro hfolds
    cases hfolds with
    | @unended core htrims hopen hfalls =>
      rw [foldedWords, Text.trimsTo_iff.1 htrims]
      simp only [beq_eq_false_iff_ne.2 hopen, Bool.false_eq_true, if_false]
      exact Text.fallsInto_iff.1 hfalls
    | @ended core body htrims hends hfalls =>
      rw [foldedWords, Text.trimsTo_iff.1 htrims, hends]
      simp only [hended, if_true, List.dropLast_concat]
      exact Text.fallsInto_iff.1 hfalls
  · rintro rfl
    have htrims : t.TrimsTo (Text.trim t) := Text.trimsTo_iff.2 rfl
    by_cases hlast : (Text.lower (Text.trim t)).getLast? = some ';'
    · obtain ⟨body, hbody⟩ := List.getLast?_eq_some_iff.1 hlast
      refine .ended htrims hbody (Text.fallsInto_iff.2 ?_)
      simp only [foldedWords, hbody, hended, if_true, List.dropLast_concat]
    · refine .unended htrims hlast (Text.fallsInto_iff.2 ?_)
      simp only [foldedWords, beq_eq_false_iff_ne.2 hlast, Bool.false_eq_true, if_false]

theorem isSettledWord_of_mem_foldedWords {w : Text} (hw : w ∈ foldedWords t) : IsSettledWord w := by
  intro c hc
  obtain ⟨-, hword⟩ := Text.mem_words hw
  obtain ⟨hmem, hblank⟩ := hword c hc
  refine ⟨?_, hblank⟩
  split at hmem
  · exact Text.isSettled_of_mem_lower ((List.dropLast_sublist _).mem hmem)
  · exact Text.isSettled_of_mem_lower hmem

/-- A text without semicolons is only folded and cut. -/
theorem foldedWords_of_isBare (ht : t.IsBare) : foldedWords t = Text.words (Text.lower t) := by
  have htrim : (Text.trim t).IsAscii := fun c hc => ht.ascii c (Text.mem_of_mem_trim hc)
  have hlast : ((Text.lower (Text.trim t)).getLast? == some ';') = false := by
    rw [beq_eq_false_iff_ne, Text.lower_eq_map htrim]
    intro hlast
    obtain ⟨c, hc, hsemicolon⟩ := List.mem_map.1 (List.mem_of_getLast? hlast)
    have hmark := Text.forall_ascii (P := fun c => c.toLower = ';' → c = ';') (by decide)
      (htrim c hc) hsemicolon
    exact ht.unmarked c (Text.mem_of_mem_trim hc) hmark
  rw [foldedWords, hlast, if_neg Bool.false_ne_true, Text.words_lower htrim, Text.words_trim,
    Text.words_lower ht.ascii]

theorem foldedWords_eq (ht : t.IsStatement) : foldedWords t = Text.words (Text.lower t) :=
  foldedWords_of_isBare ht.isBare

/-! ## Building -/

/-- The operands that the reader found, in the order of the fields. -/
def givenOperands (found : List (Field × Nat)) : List Int := found.map fun p => (p.2 : Int)

section Found

variable {op : Opcode} {found : List (Field × Nat)}
  (hlength : op.format.slots.length = tokens.length)
  (hread : readSlots op.format.slots tokens = .ok found)
include hlength hread

theorem map_fst_of_found : found.map Prod.fst = op.format.fields :=
  map_fst_of_readSlots hlength hread

/-- The constructor of a format takes every row of values that the slots of the format read. -/
theorem ofOperands_of_found : ofOperands op (givenOperands found) =
    .ok (op.build fun f => (found.lookup f).getD 0) :=
  ofOperands_of_fits (map_fst_of_found hlength hread) (lt_limit_of_readSlots hlength hread)

/-- The instruction that is built has the operands that the reader found. -/
theorem operand_of_found {p : Field × Nat} (hp : p ∈ found) :
    (op.build fun f => (found.lookup f).getD 0).operand p.1 = p.2 := by
  have hfields := map_fst_of_found hlength hread
  have hlookup : found.lookup p.1 = some p.2 := lookup_of_mem (hfields ▸ nodup_fields op) hp
  rw [operand, operands_build hfields (lt_limit_of_readSlots hlength hread), hlookup,
    Option.getD_some]

end Found

/-! ## The order of the formats -/

section Order

theorem foldl_min_eq_of_perm {l l' : List Nat} (hperm : l.Perm l') :
    l.foldl min (l.headD 0) = l'.foldl min (l'.headD 0) := by
  have hleast : ∀ l : List Nat, l.foldl min (l.headD 0) = l.min?.getD 0 := by
    intro l
    cases l with
    | nil => rfl
    | cons n rest =>
      rw [List.foldl_cons, List.headD_cons, Nat.min_self, List.min?_cons', Option.getD_some]
  rw [hleast, hleast]
  congr 1
  cases hmin : l'.min? with
  | none =>
    rw [List.min?_eq_none_iff] at hmin ⊢
    exact (hmin ▸ hperm).eq_nil
  | some n =>
    rw [List.min?_eq_some_iff] at hmin ⊢
    exact ⟨hperm.mem_iff.2 hmin.1, fun m hm => hmin.2 m (hperm.mem_iff.1 hm)⟩

variable {rows' : List (Opcode × Format)} (hperm : rows.Perm rows')
include hperm

theorem arityBounds_eq_of_perm : arityBounds rows = arityBounds rows' := by
  have harities := hperm.map fun row => row.2.slots.length
  exact Prod.ext (foldl_min_eq_of_perm harities) (harities.foldl_eq 0)

/-- What is said about tokens that no format takes does not depend on the order of the formats. -/
theorem explain_eq_of_perm (mnemonic : Text) (tokens : List Text) :
    explain rows mnemonic tokens = explain rows' mnemonic tokens := by
  have hfilter := hperm.filter fun row => row.2.slots.length == tokens.length
  unfold explain
  rw [arityBounds_eq_of_perm hperm]
  dsimp only
  congr 2
  split
  · rename_i op format hone
    have hone' := List.perm_singleton.1 (hone ▸ hfilter.symm)
    simp only [hone']
  · rename_i hmany
    split
    · rename_i op format hone'
      exact absurd (List.perm_singleton.1 (hone' ▸ hfilter)) (hmany op format)
    · rfl

end Order

section Reading

variable (hrows : rows.Perm Opcode.table)
include hrows

theorem exists_opcode_of_mem_candidates {row : Opcode × Format}
    (hrow : row ∈ candidates rows mnemonic) :
    ∃ op : Opcode, row = (op, op.format) ∧ op.format.mnemonic.map Char.toLower = mnemonic := by
  obtain ⟨hmem, hmnemonic⟩ := List.mem_filter.1 hrow
  obtain ⟨op, -, rfl⟩ := List.mem_map.1 (hrows.mem_iff.1 hmem)
  exact ⟨op, rfl, beq_iff_eq.1 hmnemonic⟩

theorem mem_candidates (op : Opcode) :
    (op, op.format) ∈ candidates rows (op.format.mnemonic.map Char.toLower) :=
  List.mem_filter.2 ⟨hrows.mem_iff.2 (List.mem_map_of_mem (Opcode.mem_all op)),
    beq_self_eq_true _⟩

/-- The first format that takes the tokens is the only one. -/
theorem find?_eq_some_of_accepts {op : Opcode} (haccepts : op.format.accepts tokens = true) :
    (candidates rows (op.format.mnemonic.map Char.toLower)).find? (·.2.accepts tokens) =
      some (op, op.format) := by
  cases hfind : (candidates rows (op.format.mnemonic.map Char.toLower)).find?
      (·.2.accepts tokens) with
  | none => exact absurd haccepts (List.find?_eq_none.1 hfind _ (mem_candidates hrows op))
  | some row =>
    -- Some row of the mnemonic is found, and whichever it is, it accepts the tokens.
    obtain ⟨found, rfl, hmnemonic⟩ :=
      exists_opcode_of_mem_candidates hrows (List.mem_of_find?_eq_some hfind)
    have hfound : found.format.accepts tokens = true := by simpa using List.find?_some hfind
    rw [Format.eq_of_accepts hmnemonic hfound haccepts]

/-- A row of the table that has the mnemonic and the shape of the words is the one that reads them,
wherever it stands in the table. -/
theorem readBy_of_accepts {op : Opcode}
    (hwords : foldedWords t = op.format.mnemonic.map Char.toLower :: tokens)
    (haccepts : op.format.accepts tokens = true) :
    readBy rows t = (readSlots op.format.slots tokens).map fun found =>
      op.build fun f => (found.lookup f).getD 0 := by
  have hmem := mem_candidates hrows op
  have hfind := find?_eq_some_of_accepts hrows haccepts
  rw [readBy, hwords]
  dsimp only
  split
  · rename_i hnone
    rw [hnone] at hmem
    cases hmem
  · rw [hfind]
    dsimp only
    cases readSlots op.format.slots tokens <;> rfl

end Reading

/-- Words that no format takes are rejected with an explanation, unless no format has the
mnemonic. -/
theorem readBy_of_not_accepts (hwords : foldedWords t = mnemonic :: tokens)
    (hnone : ∀ row ∈ candidates rows mnemonic, ¬ row.2.accepts tokens = true) :
    readBy rows t = .error (.rejected (if candidates rows mnemonic = [] then .unknown
      else explain (candidates rows mnemonic) mnemonic tokens)) := by
  have hfind : (candidates rows mnemonic).find? (·.2.accepts tokens) = none :=
    List.find?_eq_none.2 hnone
  rw [readBy, hwords]
  dsimp only
  split
  · rename_i hempty
    rw [if_pos hempty]
  · rename_i hother
    rw [hfind, if_neg hother]

/-- Words either have the mnemonic and the shape of a row, or no row of the mnemonic takes them. -/
theorem accepts_or_not_accepts (hrows : rows.Perm Opcode.table) (mnemonic : Text)
    (tokens : List Text) :
    (∃ op : Opcode, op.format.mnemonic.map Char.toLower = mnemonic ∧
      op.format.accepts tokens = true) ∨
    ∀ row ∈ candidates rows mnemonic, ¬ row.2.accepts tokens = true := by
  refine or_iff_not_imp_right.2 fun hsome => ?_
  push Not at hsome
  obtain ⟨row, hrow, haccepts⟩ := hsome
  obtain ⟨op, rfl, hmnemonic⟩ := exists_opcode_of_mem_candidates hrows hrow
  exact ⟨op, hmnemonic, haccepts⟩

/-- The order of the table does not matter. -/
theorem readBy_eq_read (hrows : rows.Perm Opcode.table) (t : Text) : readBy rows t = read t := by
  cases hwords : foldedWords t with
  | nil => rw [read, readBy, readBy, hwords]
  | cons mnemonic tokens =>
    have htable := List.Perm.refl Opcode.table
    rcases accepts_or_not_accepts hrows mnemonic tokens with ⟨op, rfl, haccepts⟩ | hnone
    · rw [read, readBy_of_accepts hrows hwords haccepts, readBy_of_accepts htable hwords haccepts]
    · have hperm : (candidates rows mnemonic).Perm (candidates Opcode.table mnemonic) :=
        hrows.filter _
      have hempty : candidates rows mnemonic = [] ↔ candidates Opcode.table mnemonic = [] :=
        ⟨fun h => (h ▸ hperm).symm.eq_nil, fun h => (h ▸ hperm).eq_nil⟩
      rw [read, readBy_of_not_accepts hwords hnone, readBy_of_not_accepts hwords fun row hrow =>
        hnone row (hperm.mem_iff.2 hrow), explain_eq_of_perm hperm]
      simp only [hempty]

/-- A text that is not rejected for its shape has the mnemonic and the shape of some row. -/
theorem exists_accepts_or_rejected (t : Text) :
    (∃ (op : Opcode) (tokens : List Text),
      foldedWords t = op.format.mnemonic.map Char.toLower :: tokens ∧
        op.format.accepts tokens = true) ∨
    ∃ reason, read t = .error (.rejected reason) := by
  cases hwords : foldedWords t with
  | nil => exact .inr ⟨.empty, by rw [read, readBy, hwords]⟩
  | cons mnemonic tokens =>
    rcases accepts_or_not_accepts (List.Perm.refl _) mnemonic tokens with
      ⟨op, rfl, haccepts⟩ | hnone
    · exact .inl ⟨op, tokens, rfl, haccepts⟩
    · exact .inr ⟨_, readBy_of_not_accepts hwords hnone⟩

/-- Where a format takes the words, the text is read in its slots. -/
theorem read_of_accepts {op : Opcode}
    (hwords : foldedWords t = op.format.mnemonic.map Char.toLower :: tokens)
    (haccepts : op.format.accepts tokens = true) :
    read t = (readSlots op.format.slots tokens).map fun found =>
      op.build fun f => (found.lookup f).getD 0 :=
  readBy_of_accepts (List.Perm.refl _) hwords haccepts

/-! ## What is accepted -/

theorem writtenAs_of_read (hread : read t = .ok i) : i.WrittenAs (foldedWords t) := by
  rcases exists_accepts_or_rejected t with ⟨op, tokens, hwords, haccepts⟩ | ⟨reason, hrejected⟩
  · rw [read_of_accepts hwords haccepts] at hread
    cases hfound : readSlots op.format.slots tokens with
    | error cause =>
      rw [hfound] at hread
      cases hread
    | ok found =>
      rw [hfound] at hread
      obtain rfl := Except.ok.inj hread
      simp only [Format.accepts, Bool.and_eq_true, beq_iff_eq] at haccepts
      obtain ⟨hlength, hshape⟩ := haccepts
      have hvalue : ∀ p ∈ found,
          (op.build fun f => (found.lookup f).getD 0).operand p.1 = p.2 :=
        fun _ => operand_of_found hlength hfound
      have hsettled : ∀ w ∈ tokens, IsSettledWord w := fun w hw =>
        isSettledWord_of_mem_foldedWords (hwords ▸ List.mem_cons_of_mem _ hw)
      refine ⟨tokens, by rw [Opcode.opcode_build, hwords], ?_⟩
      rw [Opcode.opcode_build]
      exact forall₂_spells_of_readSlots hsettled hlength hshape hfound hvalue
  · rw [hrejected] at hread
    cases hread

/-- An instruction is what its opcode builds from a table of its operands. -/
theorem build_lookup (i : Instruction) :
    i.opcode.build (fun f =>
      ((i.opcode.format.fields.map fun f => (f, i.operand f)).lookup f).getD 0) = i := by
  rw [← i.operands_eq]
  exact i.build_operand

theorem read_of_writtenAs (hlimit : ∀ w ∈ foldedWords t, ¬ Operand.MeetsLimit w)
    (hwritten : i.WrittenAs (foldedWords t)) : read t = .ok i := by
  obtain ⟨tokens, hwords, hspells⟩ := hwritten
  have haccepts : i.opcode.format.accepts tokens = true := by
    simp only [Format.accepts, Bool.and_eq_true, beq_iff_eq]
    exact ⟨hspells.length_eq, all_accepts_of_spells hspells⟩
  have hslots := readSlots_of_spells
    (fun w hw => hlimit w (hwords ▸ List.mem_cons_of_mem _ hw)) hspells
  rw [read_of_accepts hwords haccepts, hslots]
  exact congrArg Except.ok i.build_lookup

/-- Only a numeral that meets the bound on decimal digits stops the reader of instructions. -/
theorem exists_meetsLimit_of_read {bound : DigitLimit} (hread : read t = .error (.limit bound)) :
    ∃ w ∈ foldedWords t, Operand.MeetsLimit w := by
  rcases exists_accepts_or_rejected t with ⟨op, tokens, hwords, haccepts⟩ | ⟨reason, hrejected⟩
  · rw [read_of_accepts hwords haccepts] at hread
    cases hfound : readSlots op.format.slots tokens with
    | ok found =>
      rw [hfound] at hread
      cases hread
    | error cause =>
      rw [hfound] at hread
      obtain rfl : cause = .limit bound := by simpa [Except.map] using hread
      obtain ⟨w, hw, hmeets⟩ := meetsLimit_of_readSlots (fun w hw =>
        isSettledWord_of_mem_foldedWords (hwords ▸ List.mem_cons_of_mem _ hw)) hfound
      exact ⟨w, hwords ▸ List.mem_cons_of_mem _ hw, hmeets⟩
  · rw [hrejected] at hread
    cases hread

/-- What the reader does with a text. -/
structure ReadsByGrammar (t : Text) : Prop where
  /-- the words that it sees are those to which the text is reduced -/
  words : ∀ ws, FoldsTo t ws ↔ foldedWords t = ws
  /-- exactly the words of an instruction are read as the instruction -/
  accepts : ∀ i, parse t = .ok i ↔ i.WrittenAs (foldedWords t)
  /-- every other text is refused, and the report carries it as it was given -/
  refuses : (∀ i : Instruction, ¬ i.WrittenAs (foldedWords t)) →
    ∃ reason, parse t = .error (.refused t reason)
  /-- the constructor of the format that takes the tokens takes every value read from them -/
  constructs : ∀ (op : Opcode) (tokens : List Text) (found : List (Field × Nat)),
    foldedWords t = op.format.mnemonic.map Char.toLower :: tokens →
    op.format.accepts tokens = true → readSlots op.format.slots tokens = .ok found →
    ∃ i, ofOperands op (givenOperands found) = .ok i ∧ parse t = .ok i
  /-- formats of one mnemonic that take the same tokens are the same -/
  unambiguous : ∀ (tokens : List Text) (op op' : Opcode),
    op.format.mnemonic.map Char.toLower = op'.format.mnemonic.map Char.toLower →
    op.format.accepts tokens = true → op'.format.accepts tokens = true → op = op'
  /-- the formats may stand in any order -/
  anyOrder : ∀ rows, rows.Perm Opcode.table → (readBy rows t).mapError (·.failure t) = parse t

/-- A text without a numeral that meets the bound on decimal digits is read by the grammar of the
formats, or refused with a report of what is wrong with it. -/
theorem parse_by_grammar (t : Text) (hlimit : ∀ w ∈ foldedWords t, ¬ Operand.MeetsLimit w) :
    ReadsByGrammar t where
  words _ := foldsTo_iff
  accepts i := by
    rw [parse]
    constructor
    · intro hparse
      cases hread : read t with
      | ok found =>
        rw [hread] at hparse
        obtain rfl := Except.ok.inj hparse
        exact writtenAs_of_read hread
      | error cause =>
        rw [hread] at hparse
        cases hparse
    · intro hwritten
      rw [read_of_writtenAs hlimit hwritten]
      rfl
  refuses hnone := by
    cases hread : read t with
    | ok i => exact absurd (writtenAs_of_read hread) (hnone i)
    | error cause =>
      cases cause with
      | rejected reason => exact ⟨reason, by rw [parse, hread]; rfl⟩
      | limit bound =>
        obtain ⟨w, hw, hmeets⟩ := exists_meetsLimit_of_read hread
        exact absurd hmeets (hlimit w hw)
  constructs op tokens found hwords haccepts hfound := by
    have hlength : op.format.slots.length = tokens.length := by
      simp only [Format.accepts, Bool.and_eq_true, beq_iff_eq] at haccepts
      exact haccepts.1
    refine ⟨_, ofOperands_of_found hlength hfound, ?_⟩
    rw [parse, read_of_accepts hwords haccepts, hfound]
    rfl
  unambiguous _ _ _ hmnemonic haccepts haccepts' :=
    Format.eq_of_accepts hmnemonic haccepts haccepts'
  anyOrder rows hrows := by rw [readBy_eq_read hrows, parse]

theorem parse_by_grammar_ld :
    (∀ w ∈ foldedWords "  LD vA 0x1f ;".toList, ¬ Operand.MeetsLimit w) ∧
      ReadsByGrammar "  LD vA 0x1f ;".toList ∧
      parse "  LD vA 0x1f ;".toList = .ok (.ldByte 10 31) := by
  have hshort : ∀ w ∈ foldedWords "  LD vA 0x1f ;".toList,
      2 * w.length ≤ Text.maxDecimalDigits := by
    decide +kernel
  have hlimit := fun w hw => Operand.not_meetsLimit_of_short (hshort w hw)
  exact ⟨hlimit, parse_by_grammar _ hlimit, by decide +kernel⟩

end Instruction

end Chip8
