/-
# Dumps that are read back

A dump wraps around the end of memory twice: the address of a row is brought into range before it is
printed, and the bytes of the row, read from there on, go around the end. Both are the same
wrapping, so the rows one behind the other show one block, wherever it starts. What a dump shows is
what a reader finds in the columns of its rows.
-/

import Mathlib.Data.Rat.Floor
import Chip8.Memory.Dump
import Chip8.Proofs.Memory.Blocks
import Chip8.Proofs.Text.Inline

namespace Chip8

namespace Memory

/-- What a row of a dump shows: an address, the bytes from there on, and their characters. -/
structure DumpRow where
  address : Nat
  bytes : List UInt8
  characters : Text
  deriving DecidableEq, Repr

/-- Reads a byte of two hexadecimal digits. -/
def readByte? (t : Text) : Option UInt8 :=
  if t.length = 2 then (Text.readDigits? 16 Text.hexValue? t).map UInt8.ofNat else none

/-- Reads a row of a dump. The address has three digits. The columns of the bytes, with blanks
between them, are 47 characters wide, and behind them and two blanks come the characters. -/
def DumpRow.read? (row : Text) : Option DumpRow :=
  match row.take 3, row.drop 3 with
  | address, ' ' :: ' ' :: columns =>
    match columns.take 47, columns.drop 47 with
    | bytes, ' ' :: ' ' :: characters => do
      let address ← Text.readDigits? 16 Text.hexValue? address
      let bytes ← (Text.cut (· == ' ') bytes).mapM readByte?
      return { address, bytes, characters }
    | _, _ => none
  | _, _ => none

/-- The character that a byte is shown as: its own, if that is printable ASCII, and else a dot. -/
inductive ShownAs (b : UInt8) : Char → Prop
  | printable {c : Char} (range : 0x20 ≤ b.toNat ∧ b.toNat ≤ 0x7E) (code : c.toNat = b.toNat) :
    ShownAs b c
  | other (range : ¬ (0x20 ≤ b.toNat ∧ b.toNat ≤ 0x7E)) : ShownAs b '.'

/-- A dump of `length` bytes from `start` on shows the memory, `rows` being what its lines show. -/
structure IsDumped (m : Memory) (start length : Int) (rows : List DumpRow) : Prop where
  /-- the rows are read from the lines of the dump -/
  reads : (Text.lines (m.dump start length)).mapM DumpRow.read? = some rows
  /-- so many rows that the bytes fit, and none if there are no bytes -/
  count : rows.length = ⌈(length : ℚ) / 16⌉₊
  address : ∀ (k : Nat) (row : DumpRow), rows[k]? = some row →
    (row.address : Int) = (start + 16 * k) % 4096
  /-- the rows one behind the other are one block, around the end of memory if need be -/
  bytes : rows.flatMap DumpRow.bytes = m.readBlock start (16 * rows.length)
  width : ∀ row ∈ rows, row.bytes.length = 16
  /-- one character for each byte -/
  characters : ∀ row ∈ rows, List.Forall₂ ShownAs row.bytes row.characters

/-! ## The columns of a row -/

theorem readByte?_hexByte (b : UInt8) : readByte? (Text.hexByte b) = some b := by
  have hlength : (Text.hexByte b).length = 2 := Text.length_hexPadded (by omega) b.toNat_lt
  rw [readByte?, if_pos hlength, Text.hexByte, Text.readDigits?_hexPadded, Option.map_some,
    UInt8.ofNat_toNat]

/-- Bytes are read back from their columns. -/
theorem mapM_readByte?_hexBytes {bytes : List UInt8} (hne : bytes ≠ []) :
    (Text.cut (· == ' ') (Text.hexBytes bytes)).mapM readByte? = some bytes := by
  have hunmarked : ∀ piece ∈ bytes.map Text.hexByte, ∀ c ∈ piece, (c == ' ') = false := by
    intro piece hpiece c hc
    obtain ⟨b, -, rfl⟩ := List.mem_map.1 hpiece
    have hplain := Text.isPlain_of_mem_hexPadded hc
    exact beq_false_of_ne fun hblank => absurd (hblank ▸ hplain) (by decide)
  have hpieces : bytes.map Text.hexByte ≠ [] := fun hnil => hne (List.map_eq_nil_iff.1 hnil)
  rw [Text.hexBytes, Text.cut_join (· == ' ') (beq_self_eq_true ' ') hpieces hunmarked,
    List.mapM_map, Function.comp_def, funext readByte?_hexByte]
  exact List.mapM_pure.trans (congrArg some (List.map_id bytes))

theorem length_hexBytes (bytes : List UInt8) :
    (Text.hexBytes bytes).length = 3 * bytes.length - 1 := by
  have hbyte : ∀ b, (Text.hexByte b).length = 2 := fun b =>
    Text.length_hexPadded (by omega) b.toNat_lt
  induction bytes with
  | nil => rfl
  | cons b rest ih =>
    cases rest with
    | nil => simp [Text.hexBytes, Text.join, hbyte]
    | cons next others =>
      rw [Text.hexBytes] at ih ⊢
      rw [List.map_cons, List.map_cons, Text.join_cons_cons, List.length_append,
        List.length_append, hbyte, ← List.map_cons, ih]
      simp only [List.length_cons, List.length_nil]
      omega

theorem shownAs_byteChar (b : UInt8) : ShownAs b (byteChar b) := by
  have hrange : (0x20 ≤ b && b < 0x7F) = true ↔ 0x20 ≤ b.toNat ∧ b.toNat ≤ 0x7E := by
    simp only [Bool.and_eq_true, decide_eq_true_eq, UInt8.le_iff_toNat_le, UInt8.lt_iff_toNat_lt]
    exact and_congr_right fun _ => Nat.lt_succ_iff
  unfold byteChar
  split
  · rename_i hshown
    have hvalid : b.toNat.isValidChar := .inl (by have hlt := b.toNat_lt; omega)
    exact .printable (hrange.1 hshown) (Text.toNat_ofNat_of_valid hvalid)
  · rename_i hhidden
    exact .other fun hshown => hhidden (hrange.2 hshown)

theorem ShownAs.isPrintable {b : UInt8} {c : Char} (hshown : ShownAs b c) :
    0x20 ≤ c.toNat ∧ c.toNat < 0x7F := by
  cases hshown with
  | printable hrange hcode => omega
  | other => decide

/-- What the row of bytes from an address on shows. -/
def dumpedRow (m : Memory) (address : Int) : DumpRow :=
  { address := cellOf address, bytes := m.readBlock address rowSize
    characters := (m.readBlock address rowSize).map byteChar }

/-- A row is read as what it was printed from. -/
theorem read?_dumpRow (m : Memory) (address : Int) :
    DumpRow.read? (m.dumpRow address) = some (m.dumpedRow address) := by
  have haddress : (Text.hexPadded 3 (cellOf address)).length = 3 :=
    Text.length_hexPadded (by omega) (cellOf address).isLt
  have hcolumns : (Text.hexBytes (m.readBlock address rowSize)).length = 47 := by
    rw [length_hexBytes, length_readBlock]
    rfl
  have hne : m.readBlock address rowSize ≠ [] := List.ne_nil_of_length_eq_add_one <|
    length_readBlock m address rowSize
  have hrow : m.dumpRow address = Text.hexPadded 3 (cellOf address) ++ ' ' :: ' ' ::
      (Text.hexBytes (m.readBlock address rowSize) ++ ' ' :: ' ' ::
        (m.readBlock address rowSize).map byteChar) := by
    simp [dumpRow, readBlock_cellOf]
  rw [DumpRow.read?, hrow, List.take_left' haddress, List.drop_left' haddress]
  simp only [List.take_left' hcolumns, List.drop_left' hcolumns, Text.readDigits?_hexPadded,
    mapM_readByte?_hexBytes hne]
  rfl

/-! ## The rows of a dump -/

theorem isPrintable_dumpRow (m : Memory) (address : Int) : (m.dumpRow address).IsPrintable := by
  have hcharacters : Text.IsPrintable ((m.readBlock address rowSize).map byteChar) := by
    intro c hc
    obtain ⟨b, -, rfl⟩ := List.mem_map.1 hc
    exact (shownAs_byteChar b).isPrintable
  simp [dumpRow, readBlock_cellOf, hcharacters]

theorem lines_dump (m : Memory) (start length : Int) :
    Text.lines (m.dump start length) = m.dumpRows start length := by
  refine Text.lines_join_lineFeed fun row hrow => ?_
  obtain ⟨k, -, rfl⟩ := List.mem_map.1 hrow
  exact ⟨by simp [dumpRow], m.isPrintable_dumpRow _⟩

/-- Rows one behind the other are one block. -/
theorem flatMap_readBlock (m : Memory) (start : Int) (count size : Nat) :
    ((List.range count).flatMap fun k : Nat => m.readBlock (start + size * k) size) =
      m.readBlock start (size * count) := by
  induction count with
  | zero => rfl
  | succ count ih =>
    rw [List.range_succ, List.flatMap_append, ih, List.flatMap_singleton, Nat.mul_succ,
      readBlock_add, Nat.cast_mul]

theorem rowCount_eq (length : Int) :
    (length.toNat + (rowSize - 1)) / rowSize = ⌈(length : ℚ) / 16⌉₊ := by
  refine eq_of_forall_ge_iff fun count => ?_
  have hfits : (length : ℚ) / 16 ≤ count ↔ length ≤ count * 16 := by
    rw [div_le_iff₀ (by norm_num)]
    exact_mod_cast Iff.rfl
  rw [Nat.ceil_le, hfits]
  unfold rowSize
  omega

/-- A dump shows the memory, wherever it starts and however long it is to be. -/
theorem isDumped (m : Memory) (start length : Int) : ∃ rows, m.IsDumped start length rows := by
  refine ⟨(List.range ⌈(length : ℚ) / 16⌉₊).map fun k : Nat =>
    m.dumpedRow (start + rowSize * k), ?_⟩
  exact
    { reads := by
        rw [lines_dump, dumpRows, rowCount_eq, List.mapM_map, Function.comp_def]
        simp only [read?_dumpRow]
        exact List.mapM_pure
      count := by simp
      address := by
        intro k row hrow
        rw [List.getElem?_map, Option.map_eq_some_iff] at hrow
        obtain ⟨place, hplace, rfl⟩ := hrow
        obtain ⟨_, rfl⟩ := List.getElem?_eq_some_iff.1 hplace
        simp only [List.getElem_range, dumpedRow, cellOf, rowSize]
        omega
      bytes := by
        rw [List.flatMap_map, List.length_map, List.length_range]
        exact m.flatMap_readBlock start _ rowSize
      width := by
        intro row hrow
        obtain ⟨k, -, rfl⟩ := List.mem_map.1 hrow
        exact length_readBlock m _ rowSize
      characters := by
        intro row hrow
        obtain ⟨k, -, rfl⟩ := List.mem_map.1 hrow
        rw [dumpedRow, List.forall₂_map_right_iff]
        exact List.forall₂_same.2 fun b _ => shownAs_byteChar b }

end Memory

end Chip8
