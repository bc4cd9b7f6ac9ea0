/-
# Printed programs

A resolved program can be printed: every line is a statement of its own, a jump shows the address
that it got, and a block of data its bytes. Such a source defines no labels and refers to none, so
it may be assembled anywhere, with line ends or semicolons between its statements, and comes to the
lines that it was printed from.
-/

import Chip8.Proofs.Program.Joining
import Chip8.Proofs.Program.Layout

namespace Chip8

/-! ## Blocks of data -/

namespace Line

theorem isWord_dataByteText (b : UInt8) : (dataByteText b).IsWord := by
  refine ⟨List.cons_ne_nil _ _, fun c hc => ?_⟩
  rcases List.mem_cons.1 hc with rfl | hc
  · decide
  rcases List.mem_cons.1 hc with rfl | hc
  · decide
  · exact Text.isPlain_of_mem_hexPadded hc

/-- A printed byte is read as the byte. -/
theorem readByte_dataByteText (b : UInt8) : readByte (dataByteText b) = .ok b := by
  have hlower : Text.lower (dataByteText b) =
      '0' :: 'x' :: (Text.hexPadded 2 b.toNat).map Char.toLower :=
    Text.lower_eq_map (isWord_dataByteText b).isStatement.ascii
  have hbound : b.toNat ≤ 0xFF := Nat.le_of_lt_succ b.toNat_lt
  simp only [readByte, hlower, Text.readDigits?_lower_hexPadded, if_pos hbound, UInt8.ofNat_toNat]

theorem mapM_readByte_dataByteText (bytes : List UInt8) :
    (bytes.map dataByteText).mapM readByte = .ok bytes := by
  induction bytes with
  | nil => rfl
  | cons b rest ih =>
    rw [List.map_cons, List.mapM_cons, readByte_dataByteText, ih]
    rfl

/-- The word that a block of data starts with. -/
def dataMnemonic : Text := ['B', 'Y', 'T', 'E', 'S']

theorem text_data {bytes : List UInt8} (hne : bytes ≠ []) :
    (Line.data bytes).text = Text.join [' '] (dataMnemonic :: bytes.map dataByteText) := by
  cases bytes with
  | nil => exact absurd rfl hne
  | cons b rest =>
    rw [List.map_cons, Text.join_cons_cons]
    rfl

theorem isWord_dataWords (bytes : List UInt8) :
    ∀ w ∈ dataMnemonic :: bytes.map dataByteText, Text.IsWord w := by
  intro w hw
  rcases List.mem_cons.1 hw with rfl | hw
  · decide
  · obtain ⟨b, -, rfl⟩ := List.mem_map.1 hw
    exact isWord_dataByteText b

/-- A printed block of data is read as the block. -/
theorem read_data {bytes : List UInt8} (hne : bytes ≠ []) :
    read (Line.data bytes).text = .ok (.data bytes, none) := by
  have hwords := isWord_dataWords bytes
  have hfolded : Text.words (Text.lower (Line.data bytes).text) =
      (dataMnemonic :: bytes.map dataByteText).map (List.map Char.toLower) := by
    rw [text_data hne, Text.words_lower_join (List.cons_ne_nil _ _) hwords]
  have hmnemonic : dataMnemonic.map Char.toLower = ['b', 'y', 't', 'e', 's'] := by decide
  have htokens : (Text.words (Line.data bytes).text).drop 1 = bytes.map dataByteText := by
    rw [text_data hne, Text.words_join hwords]
    rfl
  have hdata : readData (bytes.map dataByteText) = .ok (.data bytes) := by
    have hsome : (bytes.map dataByteText).isEmpty = false := by simpa using hne
    rw [readData, hsome, if_neg Bool.false_ne_true, mapM_readByte_dataByteText]
    rfl
  rw [read, hfolded, List.map_cons, hmnemonic, htokens, hdata]
  rfl

/-! ## Printed lines -/

variable {l : Line}

/-- A line that takes a place is printed as a statement. -/
theorem isStatement_text (hsize : 0 < l.size) : l.text.IsStatement := by
  cases l with
  | instruction i => exact i.isStatement_text
  | data bytes =>
    rw [text_data (List.length_pos_iff.1 hsize)]
    exact Text.isStatement_join (List.cons_ne_nil _ _) (isWord_dataWords bytes)

/-- And it is read back from that statement. -/
theorem writtenAs_text_of_size_pos (hsize : 0 < l.size) : l.WrittenAs l.text := by
  cases l with
  | instruction i => exact writtenAs_text i
  | data bytes =>
    exact ⟨splitLabel?_eq_none (isStatement_text hsize), read_data (List.length_pos_iff.1 hsize)⟩

/-- A block of data is read from one token at least. -/
theorem size_pos_of_readData {tokens : List Text} (hread : readData tokens = .ok l) :
    0 < l.size := by
  cases tokens with
  | nil => cases hread
  | cons token rest =>
    simp only [readData, List.isEmpty_cons, Bool.false_eq_true, if_false, List.mapM_cons] at hread
    cases hfirst : readByte token with
    | error reason => simp [hfirst, bind, Except.bind, Except.map] at hread
    | ok b =>
      cases hrest : rest.mapM readByte with
      | error reason => simp [hfirst, hrest, bind, Except.bind, Except.map] at hread
      | ok bytes =>
        simp only [hfirst, hrest, bind, Except.bind, pure, Except.pure, Except.map,
          Except.ok.injEq] at hread
        obtain rfl := hread
        exact Nat.zero_lt_succ _

/-- No statement is read as a line without bytes. -/
theorem size_pos_of_read {t : Text} {reference : Option Label}
    (hread : read t = .ok (l, reference)) : 0 < l.size := by
  cases reference with
  | some label =>
    rcases refers_of_read hread with ⟨-, rfl⟩ | ⟨-, rfl⟩ <;> exact Nat.zero_lt_two
  | none =>
    unfold read at hread
    dsimp only at hread
    split at hread
    · split at hread
      · rename_i found hdata
        obtain ⟨rfl, -⟩ := Prod.mk.inj (Except.ok.inj hread)
        exact size_pos_of_readData hdata
      · cases hread
    · split at hread
      · cases hread
      · cases hinstruction : Instruction.read t with
        | error cause => simp [hinstruction, Except.map] at hread
        | ok i =>
          rw [hinstruction] at hread
          obtain ⟨rfl, -⟩ := Prod.mk.inj (Except.ok.inj hread)
          exact Nat.zero_lt_two

end Line

/-- Every line of an assembled source takes a place. -/
theorem Program.size_pos_of_assemble {base : Int} {source : Text} {p : Program}
    (hprogram : assemble base source = .ok p) {l : Line} (hl : l ∈ p.lines) : 0 < l.size := by
  obtain ⟨d, hholds, hresolves, -⟩ := exists_draft_of_assemble hprogram
  obtain ⟨resolved, hresolved, rfl⟩ := List.mem_map.1 hl
  have hsize : resolved.line.size ∈ p.entries.map (Line.size ∘ Entry.line) :=
    List.mem_map_of_mem hresolved
  rw [map_size_of_resolves hresolves] at hsize
  obtain ⟨e, he, hsame⟩ := List.mem_map.1 hsize
  have hentries : (d.program base).entries =
      (Source.statements source).filterMap Statement.added? := hholds.entries
  obtain ⟨s, -, hadded⟩ := List.mem_filterMap.1 (hentries ▸ he)
  obtain ⟨text, -, hread⟩ := Statement.exists_read_of_added? hadded
  rw [← hsame]
  exact Line.size_pos_of_read hread

namespace Program

/-- The program of an assembled source is printed as statements, and these are assembled at any
place to the lines and the bytes of the program, without labels and references. -/
theorem reassembles_of_joined {base : Int} {source : Text} {p : Program}
    (hprogram : assemble base source = .ok p) {printed : Text}
    (hprinted : Source.Joined (p.lines.map Line.text) printed) (place : Int) :
    ∃ q, assemble place printed = .ok q ∧ q.bytes = p.bytes ∧ q.lines = p.lines ∧
      q.labels = [] ∧ q.base = place ∧ ∀ e ∈ q.entries, e.reference = none := by
  have hsize : ∀ l ∈ p.lines, 0 < l.size := fun l hl => size_pos_of_assemble hprogram hl
  have hstatements : ∀ t ∈ p.lines.map Line.text, t.IsStatement := by
    intro t ht
    obtain ⟨l, hl, rfl⟩ := List.mem_map.1 ht
    exact Line.isStatement_text (hsize l hl)
  have hwritten : List.Forall₂ Line.WrittenAs p.lines
      ((Source.statements printed).map Statement.text) := by
    rw [Source.map_text_statements_of_joined hstatements hprinted, List.forall₂_map_right_iff,
      List.forall₂_same]
    exact fun l hl => Line.writtenAs_text_of_size_pos (hsize l hl)
  obtain ⟨q, hassemble, hlines, hlabels, hplace, hplain⟩ := assemble_of_writtenAs place hwritten
  exact ⟨q, hassemble, by rw [bytes, bytes, hlines], hlines, hlabels, hplace, hplain⟩

/-- The mixed source resolved: its jumps have addresses. -/
def resolvedMixedProgram : Program where
  entries :=
    [⟨.instruction (.jp (twelveBits 0x207)), some "end".toList, 1⟩,
      ⟨.data [1, 2, 3], none, 2⟩,
      ⟨.instruction (.call (twelveBits 0x200)), some "start".toList, 2⟩]
  labels := [("start".toList, 0), ("end".toList, 3)]
  base := 0x200

/-- Its lines, printed with a line feed behind the first and a semicolon behind the second. -/
def printedMixedProgram : Text := "JP 0x207\nBYTES 0x01 0x02 0x03;CALL 0x200".toList

theorem reassembles_of_joined_mixed :
    (assemble 0x200 Assembler.mixedSource = .ok resolvedMixedProgram ∧
      Source.Joined (resolvedMixedProgram.lines.map Line.text) printedMixedProgram) ∧
      ∃ q, assemble (-7) printedMixedProgram = .ok q ∧ q.bytes = resolvedMixedProgram.bytes ∧
        q.lines = resolvedMixedProgram.lines ∧ q.labels = [] ∧ q.base = -7 ∧
        ∀ e ∈ q.entries, e.reference = none := by
  have hprogram : assemble 0x200 Assembler.mixedSource = .ok resolvedMixedProgram := by
    decide +kernel
  have hfeed : Source.Separates ['\n'] := ⟨by simp, by simp⟩
  have hsemicolon : Source.Separates [';'] := ⟨by simp, by simp⟩
  have hprinted : Source.Joined (resolvedMixedProgram.lines.map Line.text) printedMixedProgram :=
    .cons _ hfeed (.cons _ hsemicolon (.single _))
  exact ⟨⟨hprogram, hprinted⟩, reassembles_of_joined hprogram hprinted (-7)⟩

end Program

end Chip8
