/-
# Instructions from operands

An opcode and a value for each of its fields make an instruction with exactly these operands, as
long as every value fits its field. The operands may come from numerals that were read or from
somebody who writes them down.
-/

import Mathlib.Data.List.Forall2
import Chip8.Instruction.Encoding

namespace Chip8

/-- In a table without repeated names, an entry is found under its name. -/
theorem lookup_of_mem {α β : Type} [BEq α] [LawfulBEq α] {table : List (α × β)}
    (hnodup : (table.map Prod.fst).Nodup) {name : α} {entry : β} (hmem : (name, entry) ∈ table) :
    table.lookup name = some entry := by
  obtain ⟨before, after, rfl⟩ := List.append_of_mem hmem
  rw [List.map_append, List.nodup_append] at hnodup
  refine List.lookup_eq_some_iff.2 ⟨before, after, rfl, fun other hother => ?_⟩
  have hne := hnodup.2.2 other.1 (List.mem_map_of_mem hother) name (by simp)
  simpa using hne.symm

/-- Numbers without a common bit are added by putting their bits together. -/
theorem lor_eq_add_of_land_eq_zero {a b : Nat} (hland : a &&& b = 0) : a ||| b = a + b := by
  have ha : a < 2 ^ (a + b) := Nat.lt_of_le_of_lt (Nat.le_add_right a b) Nat.lt_two_pow_self
  have hb : b < 2 ^ (a + b) := Nat.lt_of_le_of_lt (Nat.le_add_left b a) Nat.lt_two_pow_self
  have hbits : BitVec.ofNat (a + b) a &&& BitVec.ofNat (a + b) b = 0#(a + b) := by
    rw [← BitVec.ofNat_and, hland]
  have hsum := BitVec.toNat_add_of_and_eq_zero hbits
  rwa [BitVec.add_eq_or_of_and_eq_zero _ _ hbits, BitVec.toNat_or, BitVec.toNat_ofNat,
    BitVec.toNat_ofNat, Nat.mod_eq_of_lt ha, Nat.mod_eq_of_lt hb] at hsum

namespace Field

/-- The bits of the word that the field takes. -/
def bits (f : Field) : Nat := (f.limit - 1) <<< f.shift

/-- A value of the width of its field stays within the bits of the field. -/
theorem shiftLeft_land_bits {f : Field} {value : Nat} (hvalue : value < f.limit) :
    value <<< f.shift &&& f.bits = value <<< f.shift := by
  have hlimit : f.limit = 2 ^ f.width := Nat.one_shiftLeft f.width
  rw [bits, ← Nat.shiftLeft_and_distrib, hlimit,
    Nat.and_two_pow_sub_one_of_lt_two_pow (hlimit ▸ hvalue)]

end Field

/-- The pattern leaves the bits of the fields free, and no two fields share a bit. -/
theorem Opcode.fields_disjoint (op : Opcode) :
    (∀ f ∈ op.format.fields, op.format.pattern &&& f.bits = 0) ∧
      op.format.fields.Pairwise fun f g => f.bits &&& g.bits = 0 := by
  have hall : ∀ op ∈ all, (∀ f ∈ op.format.fields, op.format.pattern &&& f.bits = 0) ∧
      op.format.fields.Pairwise fun f g => f.bits &&& g.bits = 0 := by decide
  exact hall op (mem_all op)

/-- One value for each operand field of the opcode, each of the width of its field. -/
def Opcode.InRange (op : Opcode) (values : List Int) : Prop :=
  List.Forall₂ (fun f value => 0 ≤ value ∧ value < (f.limit : Int)) op.format.fields values

namespace Instruction

theorem nodup_fields (op : Opcode) : op.format.fields.Nodup := by
  have hall : ∀ op ∈ Opcode.all, op.format.fields.Nodup := by decide
  exact hall op (Opcode.mem_all op)

theorem operands_eq (i : Instruction) :
    i.operands = i.opcode.format.fields.map fun f => (f, i.operand f) := by
  cases i <;> rfl

theorem lt_limit_of_mem_operands {i : Instruction} {f : Field} {value : Nat}
    (hmem : (f, value) ∈ i.operands) : value < f.limit := by
  have hall : ∀ p ∈ i.operands, p.2 < p.1.limit := by
    cases i <;> simp [operands, Field.limit, Field.width]
  exact hall (f, value) hmem

/-- Values in fields that overlap neither each other nor the word are added to it. -/
theorem foldl_lor_eq_add {table : List (Field × Nat)} {word : Nat}
    (hlimit : ∀ p ∈ table, p.2 < p.1.limit)
    (hfree : ∀ f ∈ table.map Prod.fst, word &&& f.bits = 0)
    (hdisjoint : (table.map Prod.fst).Pairwise fun f g => f.bits &&& g.bits = 0) :
    table.foldl (fun word (f, value) => word ||| value <<< f.shift) word =
      table.foldl (fun word (f, value) => word + value * f.weight) word := by
  induction table generalizing word with
  | nil => rfl
  | cons p rest ih =>
    obtain ⟨f, value⟩ := p
    obtain ⟨hvalue, hlimit⟩ := List.forall_mem_cons.1 hlimit
    obtain ⟨hword, hfree⟩ := List.forall_mem_cons.1 hfree
    obtain ⟨hothers, hdisjoint⟩ := List.pairwise_cons.1 hdisjoint
    have hinside := Field.shiftLeft_land_bits hvalue
    have hsum : word ||| value <<< f.shift = word + value * f.weight := by
      rw [lor_eq_add_of_land_eq_zero, Field.weight, Nat.one_shiftLeft, Nat.shiftLeft_eq]
      rw [← hinside, Nat.and_comm (value <<< f.shift), ← Nat.and_assoc, hword, Nat.zero_and]
    -- The other fields are still free in the word with this value.
    have hrest : ∀ g ∈ rest.map Prod.fst, (word ||| value <<< f.shift) &&& g.bits = 0 := by
      intro g hg
      rw [Nat.and_or_distrib_right, hfree g hg, ← hinside, Nat.and_assoc, hothers g hg,
        Nat.and_zero, Nat.or_zero]
    rw [List.foldl_cons, List.foldl_cons, ih hlimit hrest hdisjoint]
    dsimp only
    rw [hsum]

/-- The word of an instruction is its pattern with the operands added at the weights of their
fields. -/
theorem encode_eq_add (i : Instruction) : i.encode =
    i.operands.foldl (fun word (f, value) => word + value * f.weight) i.opcode.format.pattern := by
  obtain ⟨hfree, hdisjoint⟩ := i.opcode.fields_disjoint
  rw [← i.map_fst_operands] at hfree hdisjoint
  exact foldl_lor_eq_add (fun _ hp => lt_limit_of_mem_operands hp) hfree hdisjoint

/-- A value that fits its field is not changed when the instruction is built. -/
theorem operand_build (op : Opcode) {value : Field → Nat} {f : Field}
    (hf : f ∈ op.format.fields) (hvalue : value f < f.limit) :
    (op.build value).operand f = value f := by
  have hcut : (op.build value).operand f = value f % f.limit := by
    cases op <;> cases f <;> first | rfl | exact absurd hf (by decide)
  rw [hcut, Nat.mod_eq_of_lt hvalue]

section Table

variable {op : Opcode} {table : List (Field × Nat)}
  (hfields : table.map Prod.fst = op.format.fields) (hlimit : ∀ p ∈ table, p.2 < p.1.limit)
include hfields hlimit

/-- An instruction has the operands that it is built from. -/
theorem operands_build : (op.build fun f => (table.lookup f).getD 0).operands = table := by
  have hnodup : (table.map Prod.fst).Nodup := hfields ▸ nodup_fields op
  rw [operands_eq, Opcode.opcode_build, ← hfields, List.map_map]
  refine (List.map_congr_left fun p hp => ?_).trans (List.map_id table)
  have hlookup : table.lookup p.1 = some p.2 := lookup_of_mem hnodup hp
  have hfield : p.1 ∈ op.format.fields := hfields ▸ List.mem_map_of_mem hp
  have hvalue : (op.build fun f => (table.lookup f).getD 0).operand p.1 = p.2 := by
    rw [operand_build op hfield] <;> simp only [hlookup, Option.getD_some]
    exact hlimit p hp
  exact Prod.ext rfl hvalue

/-- Values that fit their fields are taken as operands. -/
theorem ofOperands_of_fits : ofOperands op (table.map fun p => (p.2 : Int)) =
    .ok (op.build fun f => (table.lookup f).getD 0) := by
  have hgiven : op.format.fields.zip (table.map fun p => (p.2 : Int)) =
      table.map fun p => (p.1, (p.2 : Int)) := by
    rw [← hfields, List.zip_map']
  have hrange : ∀ q ∈ table.map fun p => (p.1, (p.2 : Int)), 0 ≤ q.2 ∧ q.2 < q.1.limit := by
    intro q hq
    obtain ⟨p, hp, rfl⟩ := List.mem_map.1 hq
    have hlt := hlimit p hp
    dsimp only
    omega
  have hlookup : ∀ f, (table.map fun p => (p.1, (p.2 : Int))).lookup f =
      (table.lookup f).map fun value => (value : Int) := by
    intro f
    clear hgiven hrange hfields hlimit
    induction table with
    | nil => rfl
    | cons p rest ih =>
      rw [List.map_cons, List.lookup_cons, List.lookup_cons, ih]
      cases f == p.1 <;> rfl
  rw [ofOperands, hgiven]
  dsimp only
  split
  · rename_i field value hfind
    have hvalue : 0 ≤ value ∧ value < field.limit := hrange _ (List.mem_of_find?_eq_some hfind)
    have hout := List.find?_some hfind
    simp only [Bool.or_eq_true, decide_eq_true_eq] at hout
    omega
  · congr 2
    funext f
    rw [hlookup]
    cases table.lookup f <;> rfl

end Table

/-- Fields with a value of their width each, as a table. -/
theorem exists_table {fields : List Field} {values : List Int}
    (hrange : List.Forall₂ (fun f value => 0 ≤ value ∧ value < (f.limit : Int)) fields values) :
    ∃ table : List (Field × Nat), table.map Prod.fst = fields ∧
      (∀ p ∈ table, p.2 < p.1.limit) ∧ table.map (fun p => (p.2 : Int)) = values := by
  induction hrange with
  | nil => exact ⟨[], rfl, by simp, rfl⟩
  | @cons f value _ _ hvalue _ ih =>
    obtain ⟨table, hfields, hlimit, hvalues⟩ := ih
    refine ⟨(f, value.toNat) :: table, congrArg (f :: ·) hfields, ?_, ?_⟩
    · intro p hp
      rcases List.mem_cons.1 hp with rfl | hp
      · dsimp only
        omega
      · exact hlimit p hp
    · rw [List.map_cons, hvalues, Int.toNat_of_nonneg hvalue.1]

/-- Operands in range make the instruction that has them. -/
theorem ofOperands_of_inRange {op : Opcode} {values : List Int} (hrange : op.InRange values) :
    ∃ i, ofOperands op values = .ok i ∧ i.opcode = op ∧
      i.operands.map (fun p => (p.2 : Int)) = values := by
  obtain ⟨table, hfields, hlimit, hvalues⟩ := exists_table hrange
  have hmade := ofOperands_of_fits hfields hlimit
  rw [hvalues] at hmade
  refine ⟨_, hmade, op.opcode_build _, ?_⟩
  rw [operands_build hfields hlimit, hvalues]

end Instruction

end Chip8
