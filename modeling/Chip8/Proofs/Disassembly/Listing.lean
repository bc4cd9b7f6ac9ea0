/-
# The views of a disassembly

Bytes are shown as instructions, as source text and as a listing. All three walk through the same
words: the `k`-th one is made of the bytes at `2 * k` and `2 * k + 1`, for as long as both are
there. What a listing shows is what a reader finds in its columns, so the addresses, the words and
the statements are read back from the printed rows.
-/

import Chip8.Proofs.Disassembly.RoundTrip
import Chip8.Proofs.Text.Inline

namespace Chip8

namespace Disassembly

/-- What a row of a listing shows: an address, the word there, and the statement it stands for. -/
structure ListedWord where
  address : Int
  word : Nat
  statement : Text
  deriving DecidableEq, Repr

/-- The integer that is written in hexadecimal, behind a minus sign if it is negative. -/
def readHexSigned? : Text → Option Int
  | '-' :: digits => (Text.readDigits? 16 Text.hexValue? digits).map fun n => -(n : Int)
  | digits => (Text.readDigits? 16 Text.hexValue? digits).map fun n => (n : Int)

/-- Reads a row of a listing. The address ends at the first colon, and the word has four digits. -/
def ListedWord.read? (row : Text) : Option ListedWord :=
  match row.takeWhile (· != ':'), row.dropWhile (· != ':') with
  | '0' :: 'x' :: address, ':' :: ' ' :: columns =>
    match columns.take 4, columns.drop 4 with
    | word, ' ' :: ' ' :: statement => do
      let address ← readHexSigned? address
      let word ← Text.readDigits? 16 Text.hexValue? word
      return { address, word, statement }
    | _, _ => none
  | _, _ => none

/-- The views of a row of bytes show the same words, `rows` being what its listing shows. -/
structure ViewsAgree (bytes : List UInt8) (base : Int) (rows : List ListedWord) : Prop where
  /-- one instruction for every two bytes -/
  length : (disassemble bytes false).length = bytes.length / 2
  /-- each is decoded from its two bytes, the high one first -/
  instruction : ∀ (k : Nat) (hk : k < bytes.length / 2), (disassemble bytes false)[k]? =
    some (decode (bytes[2 * k].toNat * 256 + bytes[2 * k + 1].toNat))
  /-- a disassembly that stops is the longest part in front without a `NOP` -/
  stopped : ∀ is : List Instruction, is <+: disassemble bytes true ↔
    is <+: disassemble bytes false ∧ .nop ∉ is
  /-- the rows are read from the lines of the listing -/
  reads : (Text.lines (listing bytes base)).mapM ListedWord.read? = some rows
  /-- one row for every instruction -/
  count : rows.length = (disassemble bytes false).length
  row : ∀ (k : Nat) (hk : k < bytes.length / 2), ∃ row, rows[k]? = some row ∧
    row.address = base + 2 * k ∧ row.word = bytes[2 * k].toNat * 256 + bytes[2 * k + 1].toNat
  /-- the statements of the source text stand in the rows, one in each -/
  statements : rows.map ListedWord.statement =
    (Source.statements (text (disassemble bytes false))).map Statement.text
  /-- the column of words holds all bytes, but for a last odd one -/
  bytes : rows.flatMap (fun row => bytesOfWord row.word) = bytes.take (2 * (bytes.length / 2))

/-! ## Words by their place -/

theorem getElem?_wordsOf : ∀ (bytes : List UInt8) (k : Nat), (wordsOf bytes)[k]? =
    bytes[2 * k]?.bind fun high => bytes[2 * k + 1]?.map fun low => wordOfBytes high low
  | [], _ => rfl
  | [_], k => by cases k <;> simp [wordsOf]
  | high :: low :: rest, 0 => rfl
  | high :: low :: rest, k + 1 => by
    have hplace : 2 * (k + 1) = 2 * k + 1 + 1 := by omega
    rw [wordsOf, List.getElem?_cons_succ, getElem?_wordsOf rest k, hplace]
    simp only [List.getElem?_cons_succ]

/-- The word at a place is made of its two bytes. -/
theorem getElem?_wordsOf_of_lt {bytes : List UInt8} {k : Nat} (hk : k < bytes.length / 2) :
    (wordsOf bytes)[k]? = some (bytes[2 * k].toNat * 256 + bytes[2 * k + 1].toNat) := by
  rw [getElem?_wordsOf, List.getElem?_eq_getElem (by omega), List.getElem?_eq_getElem (by omega),
    ← wordOfBytes_eq_add]
  rfl

/-- What lies in front of the first element without a property is all that lies in front and has
it. -/
theorem prefix_takeWhile_iff {α : Type} {p : α → Bool} {front whole : List α} :
    front <+: whole.takeWhile p ↔ front <+: whole ∧ ∀ x ∈ front, p x = true := by
  constructor
  · intro hfront
    exact ⟨hfront.trans (List.takeWhile_prefix p),
      fun x hx => List.mem_takeWhile_imp (hfront.subset hx)⟩
  · rintro ⟨⟨back, rfl⟩, hall⟩
    rw [List.takeWhile_append_of_pos hall]
    exact List.prefix_append _ _

/-! ## Rows that are read back -/

theorem readHexSigned?_hexSigned (width : Nat) (value : Int) :
    readHexSigned? (Text.hexSigned width value) = some value := by
  cases value with
  | ofNat n =>
    have hsign : ∀ d : Fin 16, (Nat.digitChar d).toUpper ≠ '-' := by decide
    have hread := Text.readDigits?_hexPadded width n
    have hdigits := fun c => @Text.exists_of_mem_hexPadded width n c
    simp only [Text.hexSigned]
    generalize Text.hexPadded width n = digits at hread hdigits
    rw [readHexSigned?, hread]
    · rfl
    · rintro rest rfl
      obtain ⟨d, hd⟩ := hdigits '-' List.mem_cons_self
      exact hsign d hd.symm
  | negSucc n =>
    simp only [Text.hexSigned, readHexSigned?, Text.readDigits?_hexPadded]
    rfl

/-- A row is read as what it was printed from. -/
theorem read?_row (address : Int) {word : Nat} (hword : word < 65536) :
    ListedWord.read? (row address word) = some ⟨address, word, (decode word).text⟩ := by
  have haddress : ∀ c ∈ '0' :: 'x' :: Text.hexSigned 3 address, (c != ':') = true := by
    have hcolon : ∀ c, Text.isPlain c = true → (c != ':') = true := by
      rintro c hplain
      exact bne_iff_ne.2 fun heq => absurd (heq ▸ hplain) (by decide)
    intro c hc
    simp only [List.mem_cons] at hc
    rcases hc with rfl | rfl | hc
    · decide
    · decide
    · exact hcolon c (Text.isPlain_of_mem_hexSigned hc)
  have hdigits : (Text.hexPadded 4 word).length = 4 := Text.length_hexPadded (by omega) hword
  have hrow : row address word = ('0' :: 'x' :: Text.hexSigned 3 address) ++
      ':' :: ' ' :: (Text.hexPadded 4 word ++ ' ' :: ' ' :: (decode word).text) := by
    simp [row]
  rw [ListedWord.read?, hrow, List.takeWhile_append_of_pos haddress,
    List.dropWhile_append_of_pos haddress, List.takeWhile_cons_of_neg (by decide),
    List.dropWhile_cons_of_neg (by decide), List.append_nil]
  simp only [List.take_left' hdigits, List.drop_left' hdigits, readHexSigned?_hexSigned,
    Text.readDigits?_hexPadded]
  rfl

example : ListedWord.read? "0x-01: 6001  LD V0 1".toList =
    some ⟨-1, 0x6001, "LD V0 1".toList⟩ := by decide

/-- What the rows from an address on show. -/
def listedFrom (address : Int) (words : List Nat) : List ListedWord :=
  words.mapIdx fun k word => { address := address + 2 * k, word, statement := (decode word).text }

theorem listedFrom_cons (address : Int) (word : Nat) (rest : List Nat) :
    listedFrom address (word :: rest) =
      ⟨address, word, (decode word).text⟩ :: listedFrom (address + Instruction.size) rest := by
  have hnext : ∀ k : Nat, address + 2 * ((k : Int) + 1) = address + Instruction.size + 2 * k := by
    intro k
    unfold Instruction.size
    omega
  simp [listedFrom, List.mapIdx_cons, hnext]

/-- What the rows show of the words alone does not depend on the address. -/
theorem map_listedFrom {α : Type} (f : ListedWord → α) (g : Nat → α)
    (hword : ∀ address word, f ⟨address, word, (decode word).text⟩ = g word) (address : Int)
    (words : List Nat) : (listedFrom address words).map f = words.map g := by
  refine List.ext_getElem? fun k => ?_
  simp [listedFrom, Function.comp_def, hword]

/-- The listing walks through the same words as the disassembly. -/
theorem rowsFrom_eq (address : Int) (bytes : List UInt8) : rowsFrom address bytes =
    (listedFrom address (wordsOf bytes)).map fun listed => row listed.address listed.word := by
  fun_induction rowsFrom address bytes with
  | case1 address high low rest ih => rw [ih, wordsOf, listedFrom_cons, List.map_cons]
  | case2 address bytes hshort =>
    rw [wordsOf_of_short hshort]
    rfl

theorem mapM_read?_rowsFrom (address : Int) (bytes : List UInt8) :
    (rowsFrom address bytes).mapM ListedWord.read? = some (listedFrom address (wordsOf bytes)) := by
  fun_induction rowsFrom address bytes with
  | case1 address high low rest ih =>
    rw [List.mapM_cons, read?_row address (wordOfBytes_lt high low), ih, wordsOf, listedFrom_cons]
    rfl
  | case2 address bytes hshort =>
    rw [wordsOf_of_short hshort]
    rfl

theorem isPrintable_row (address : Int) (word : Nat) : (row address word).IsPrintable := by
  have hstatement := (decode word).isStatement_text.isPrintable
  simp [row, hstatement]

/-- The lines of a listing are its rows. -/
theorem lines_listing (bytes : List UInt8) (base : Int) :
    Text.lines (listing bytes base) = rowsFrom base bytes := by
  refine Text.lines_join_lineFeed fun shown hshown => ?_
  rw [rowsFrom_eq] at hshown
  obtain ⟨listed, -, rfl⟩ := List.mem_map.1 hshown
  exact ⟨by simp [row], isPrintable_row listed.address listed.word⟩

/-- The views of a disassembly agree, whatever the bytes and their base. -/
theorem viewsAgree (bytes : List UInt8) (base : Int) : ∃ rows, ViewsAgree bytes base rows := by
  refine ⟨listedFrom base (wordsOf bytes), ?_⟩
  exact
    { length := by
        rw [disassemble_false, List.length_map]
        exact length_wordsOf bytes
      instruction := by
        intro k hk
        rw [disassemble_false, List.getElem?_map, getElem?_wordsOf_of_lt hk]
        rfl
      stopped := by
        intro is
        have hnop : (∀ i ∈ is, (i != Instruction.nop) = true) ↔ Instruction.nop ∉ is := by
          simp only [bne_iff_ne, ne_eq]
          exact ⟨fun hall hmem => hall _ hmem rfl, fun hnone i hi heq => hnone (heq ▸ hi)⟩
        rw [← hnop, disassemble_true]
        exact prefix_takeWhile_iff
      reads := by
        rw [lines_listing]
        exact mapM_read?_rowsFrom base bytes
      count := by simp [listedFrom, disassemble_false]
      row := by
        intro k hk
        simp [listedFrom, getElem?_wordsOf_of_lt hk]
      statements := by
        rw [map_text_statements_text, disassemble_false, List.map_map]
        exact map_listedFrom _ _ (fun _ _ => rfl) base _
      bytes := by
        rw [← flatMap_bytesOfWord_wordsOf, List.flatMap_def, List.flatMap_def,
          map_listedFrom _ bytesOfWord fun _ _ => rfl] }

end Disassembly

end Chip8
