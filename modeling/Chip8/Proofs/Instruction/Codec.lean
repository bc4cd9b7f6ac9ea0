/-
# Instructions and their words

Operands in range make an instruction, and its word decodes to the instruction again. In the other
direction a word shows the pattern of at most one opcode. The candidates for a word may therefore be
tried in any order, and also class by class, as long as no opcode of the class is left out. A word
that shows a pattern comes back from its instruction, except that a shift forgets the second
register; a word that shows none comes back as zero.
-/

import Chip8.Proofs.Instruction.Building
import Chip8.Proofs.Instruction.Words

namespace Chip8

namespace Opcode

/-- The highest nibble of the words of the opcode. -/
def wordClass (op : Opcode) : Nat := op.format.pattern / 0x1000

/-- The number of bits of a word that decoding compares. -/
def specificity (op : Opcode) : Nat := (List.range 16).countP op.format.mask.testBit

/-- The candidates of a class after one more opcode. An opcode of the class joins them, and they are
put in order again, the most specific first. -/
def register (cls : Nat) (candidates : List Opcode) (op : Opcode) : List Opcode :=
  if op.wordClass = cls then
    (candidates ++ [op]).mergeSort fun first second =>
      decide (second.specificity ≤ first.specificity)
  else candidates

/-- The candidates of a class, when opcodes are registered one after the other. -/
def registered (ops : List Opcode) (cls : Nat) : List Opcode := ops.foldl (register cls) []

theorem mem_register {cls : Nat} {candidates : List Opcode} {op other : Opcode} :
    other ∈ register cls candidates op ↔
      other ∈ candidates ∨ (other = op ∧ op.wordClass = cls) := by
  unfold register
  split <;> simp_all

theorem mem_foldl_register {cls : Nat} {candidates ops : List Opcode} {op : Opcode} :
    op ∈ ops.foldl (register cls) candidates ↔
      op ∈ candidates ∨ (op ∈ ops ∧ op.wordClass = cls) := by
  induction ops generalizing candidates with
  | nil => simp
  | cons first rest ih =>
    rw [List.foldl_cons, ih, mem_register, List.mem_cons]
    constructor
    · rintro ((hold | ⟨rfl, hcls⟩) | ⟨hrest, hcls⟩)
      · exact .inl hold
      · exact .inr ⟨.inl rfl, hcls⟩
      · exact .inr ⟨.inr hrest, hcls⟩
    · rintro (hold | ⟨rfl | hrest, hcls⟩)
      · exact .inl (.inl hold)
      · exact .inl (.inr ⟨rfl, hcls⟩)
      · exact .inr ⟨hrest, hcls⟩

/-- Sorting neither adds a candidate nor takes one away. -/
theorem mem_registered {ops : List Opcode} {cls : Nat} {op : Opcode} :
    op ∈ registered ops cls ↔ op ∈ ops ∧ op.wordClass = cls := by
  rw [registered, mem_foldl_register]
  simp

/-- A word shows only opcodes of its class. -/
theorem wordClass_of_shownBy {op : Opcode} {word : Nat} (hword : word < 0x10000)
    (hshown : op.ShownBy word) : op.wordClass = word / 0x1000 := by
  have hmask : op.format.mask / 2 ^ 12 = 2 ^ 4 - 1 := by cases op <;> rfl
  have hhigh : word / 2 ^ 12 < 2 ^ 4 := by omega
  calc op.wordClass = (word &&& op.format.mask) / 2 ^ 12 := by rw [hshown]; rfl
    _ = word / 2 ^ 12 &&& (2 ^ 4 - 1) := by rw [Nat.and_div_two_pow, hmask]
    _ = word / 2 ^ 12 := by rw [Nat.and_two_pow_sub_one_eq_mod, Nat.mod_eq_of_lt hhigh]

end Opcode

/-- The instruction of the first candidate whose pattern a word shows. -/
def decodeAmong (candidates : List Opcode) (word : Nat) : Instruction :=
  match candidates.find? fun op => word &&& op.format.mask == op.format.pattern with
  | some op => op.build fun f => word / f.weight
  | none => .nop

/-- Candidates in any order decode a word as the table does, if all opcodes of its class are among
them. -/
theorem decodeAmong_eq_decode {candidates : List Opcode} {word : Nat} (hword : word < 0x10000)
    (hcandidates : ∀ op : Opcode, op.wordClass = word / 0x1000 → op ∈ candidates) :
    decodeAmong candidates word = decode word := by
  unfold decodeAmong
  split
  · rename_i op hfind
    have hmatch := List.find?_some hfind
    have hshown : op.ShownBy word := beq_iff_eq.1 hmatch
    rw [decode_of_shownBy hshown]
  · rename_i hfind
    refine (decode_of_not_shownBy fun op hshown => ?_).symm
    have hmem := hcandidates op (Opcode.wordClass_of_shownBy hword hshown)
    exact List.find?_eq_none.1 hfind op hmem (beq_iff_eq.2 hshown)

/-- A word that shows an opcode comes back, without its second register if the opcode is a shift. -/
theorem encode_decode_of_shownBy {op : Opcode} {c x y n : Nibble}
    (hshown : op.ShownBy (wordOfNibbles c x y n)) :
    (decode (wordOfNibbles c x y n)).encode =
      wordOfNibbles c x (if op = .shr ∨ op = .shl then 0 else y) n := by
  rw [decode_of_shownBy hshown]
  rw [Opcode.shownBy_wordOfNibbles] at hshown
  -- Under its opcode a word has only the nibbles left that the operands take, and putting them back
  -- is arithmetic.
  cases op <;> simp only at hshown <;>
    simp [hshown, Opcode.build, Field.weight, Field.shift, Instruction.encode_eq_add,
      Instruction.operands, Instruction.opcode, Opcode.format] <;>
    simp only [wordOfNibbles, eightBits, twelveBits, Fin.ofNat] <;> omega

/-- The word of an integer: its lowest sixteen bits. -/
def wordOfInt (w : Int) : Nat := (w % 0x10000).toNat

theorem wordOfInt_lt (w : Int) : wordOfInt w < 0x10000 := by
  unfold wordOfInt
  omega

theorem wordOfInt_natCast {word : Nat} (hword : word < 0x10000) : wordOfInt word = word := by
  unfold wordOfInt
  omega

/-- What becomes of an integer that is decoded and encoded again. -/
theorem encode_decodeInt_of_shownBy {op : Opcode} {w : Int} (hshown : op.ShownBy (wordOfInt w)) :
    ((decodeInt w).encode : Int) =
      if op = .shr ∨ op = .shl then w % 0x10000 - w / 0x10 % 0x10 * 0x10 else w % 0x10000 := by
  have hcut := wordOfNibbles_cut (wordOfInt_lt w)
  rw [← hcut] at hshown
  have hback := encode_decode_of_shownBy hshown
  rw [hcut] at hback
  have hdecode : decodeInt w = decode (wordOfInt w) := rfl
  rw [hdecode, hback]
  split <;> simp only [wordOfNibbles, fourBits, Fin.ofNat, wordOfInt] <;> omega

/-- The correspondence of instructions and words, in both directions. -/
structure WordCodec : Prop where
  /-- operands in range make an instruction, and these are its operands -/
  made : ∀ (op : Opcode) (values : List Int), op.InRange values →
    ∃ i, Instruction.ofOperands op values = .ok i ∧ i.opcode = op ∧
      i.operands.map (fun p => (p.2 : Int)) = values
  /-- the encoding of an instruction is a word, and decodes to the instruction -/
  encoded : ∀ i : Instruction, i.encode ≤ 0xFFFF ∧ decodeInt i.encode = i
  /-- an integer shows the pattern of at most one opcode -/
  unique : ∀ (w : Int) (op other : Opcode),
    op.ShownBy (wordOfInt w) → other.ShownBy (wordOfInt w) → op = other
  /-- candidates may be tried in any order, if all opcodes of the class are among them -/
  anyOrder : ∀ (w : Int) (candidates : List Opcode),
    (∀ op : Opcode, op.wordClass = wordOfInt w / 0x1000 → op ∈ candidates) →
      decodeAmong candidates (wordOfInt w) = decodeInt w
  /-- so opcodes may be registered in any order -/
  registered : ∀ (w : Int) (ops : List Opcode), ops.Perm Opcode.all →
    decodeAmong (Opcode.registered ops (wordOfInt w / 0x1000)) (wordOfInt w) = decodeInt w
  /-- a word that shows an opcode comes back from its instruction -/
  restored : ∀ (w : Int) (op : Opcode), op.ShownBy (wordOfInt w) → op ≠ .shr → op ≠ .shl →
    ((decodeInt w).encode : Int) = w % 0x10000
  /-- a shift comes back without its second register -/
  shifted : ∀ (w : Int) (op : Opcode), op.ShownBy (wordOfInt w) → op = .shr ∨ op = .shl →
    ((decodeInt w).encode : Int) = w % 0x10000 - w / 0x10 % 0x10 * 0x10
  /-- a word that shows no opcode comes back as zero -/
  unknown : ∀ w : Int, (∀ op : Opcode, ¬ op.ShownBy (wordOfInt w)) → (decodeInt w).encode = 0
  /-- what has come back once comes back unchanged -/
  stable : ∀ w : Int, (decodeInt (decodeInt w).encode).encode = (decodeInt w).encode

theorem decodeInt_encode (i : Instruction) : decodeInt i.encode = i := by
  have hword : decodeInt i.encode = decode (wordOfInt i.encode) := rfl
  rw [hword, wordOfInt_natCast i.encode_lt, i.decode_encode]

/-- Instructions and words correspond: an instruction is found again from its word, and an integer
is decoded by the one opcode that it shows, whatever the order of the candidates. -/
theorem wordCodec : WordCodec where
  made := fun _ _ hrange => Instruction.ofOperands_of_inRange hrange
  encoded := fun i => ⟨Nat.le_of_lt_succ i.encode_lt, decodeInt_encode i⟩
  unique := fun _ _ _ hshown hother => Opcode.eq_of_shownBy hshown hother
  anyOrder := fun w _ hcandidates => decodeAmong_eq_decode (wordOfInt_lt w) hcandidates
  registered := by
    intro w ops hops
    refine decodeAmong_eq_decode (wordOfInt_lt w) fun op hcls => ?_
    exact Opcode.mem_registered.2 ⟨hops.mem_iff.2 (Opcode.mem_all op), hcls⟩
  restored := by
    intro w op hshown hshr hshl
    rw [encode_decodeInt_of_shownBy hshown, if_neg (not_or.2 ⟨hshr, hshl⟩)]
  shifted := by
    intro w op hshown hshift
    rw [encode_decodeInt_of_shownBy hshown, if_pos hshift]
  unknown := by
    intro w hnone
    have hnop : decodeInt w = .nop := decode_of_not_shownBy hnone
    rw [hnop]
    rfl
  stable := fun w => congrArg Instruction.encode (decodeInt_encode (decodeInt w))

end Chip8
