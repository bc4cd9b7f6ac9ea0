/-
# An assembled source in memory

Three computations of addresses have to agree: the sizes that a program adds up in front of a line,
the place of the bytes of the line among those of the program, and the cells that loading writes,
one after the other. Where they agree, an emulator that was loaded with an assembled source finds
every line at its address, instructions ready to be decoded, and every label names the cell where
the statement behind it begins, at even and odd addresses alike.
-/

import Chip8.Proofs.Emulator.Loads
import Chip8.Proofs.Instruction.Words
import Chip8.Proofs.Program.Layout

namespace Chip8

/-- A word that stands in memory with its high byte first is read there. -/
theorem Memory.readWord_of_bytesOfWord {m : Memory} {address : Int} {word : Nat}
    (hword : word < 65536) (hblock : m.readBlock address 2 = bytesOfWord word) :
    m.readWord address = word := by
  rw [readWord_of_readBlock hblock, wordOfBytes_ofNat hword]

namespace Program

/-- The bytes of a program are those in front of a line, those of the line and those behind it, and
the line has its address behind the first. -/
theorem exists_bytes_eq {p : Program} {i : Nat} {line : Line} (hline : p.lines[i]? = some line) :
    ∃ front back : List UInt8, p.bytes = front ++ (line.bytes ++ back) ∧
      p.addressOf i = p.base + front.length := by
  have hi : i < p.lines.length := (List.getElem?_eq_some_iff.1 hline).1
  have hbefore : elementsBefore p.lines.length i = i := by
    simp [elementsBefore, Nat.le_of_lt hi]
  refine ⟨(p.lines.take i).flatMap Line.bytes, (p.lines.drop (i + 1)).flatMap Line.bytes, ?_, ?_⟩
  · rw [← List.flatMap_cons, ← List.flatMap_append, take_append_cons_drop hline]
    rfl
  · rw [addressOf, offsetOf, hbefore, Line.length_flatMap_bytes]

/-- A program that is loaded at its base has every line at its address. -/
theorem readBlock_addressOf (m : Memory) {p : Program} (hfit : p.bytes.length ≤ 4096) {i : Nat}
    {line : Line} (hline : p.lines[i]? = some line) :
    (m.load p.base p.bytes).readBlock (p.addressOf i) line.size = line.bytes := by
  obtain ⟨front, back, hbytes, haddress⟩ := exists_bytes_eq hline
  rw [hbytes] at hfit ⊢
  rw [haddress, ← Line.length_bytes]
  exact m.readBlock_load_append p.base hfit

/-- Behind the last line a program has its size. -/
theorem addressOf_length (p : Program) : p.addressOf p.lines.length = p.base + p.bytes.length := by
  rw [addressOf, length_bytes, size]

end Program

namespace Statement

/-- The number of lines that the statements in front of a position add to a program. -/
def linesBefore (ss : List Statement) (k : Nat) : Nat := ((ss.take k).filterMap added?).length

/-- The statement at position `j` is the one that a label at position `k` marks: the first from
there on that carries an instruction or data. -/
structure Marks (ss : List Statement) (k j : Nat) (text : Text) : Prop where
  le : k ≤ j
  carries : ∃ s, ss[j]? = some s ∧ s.content? = some text
  skipped : ∀ i s, k ≤ i → i < j → ss[i]? = some s → s.content? = none

variable {ss : List Statement}

theorem added?_of_content?_eq_none {s : Statement} (hempty : s.content? = none) :
    s.added? = none := by
  simp [added?, hempty]

/-- Statements that only define labels add no lines. -/
theorem linesBefore_eq {k j : Nat} (hle : k ≤ j)
    (hempty : ∀ i s, k ≤ i → i < j → ss[i]? = some s → s.content? = none) :
    linesBefore ss j = linesBefore ss k := by
  induction j, hle using Nat.le_induction with
  | base => rfl
  | succ j hle ih =>
    have hsame := ih fun i s hi hj => hempty i s hi (Nat.lt_succ_of_lt hj)
    rw [← hsame, linesBefore, linesBefore, List.take_add_one, List.filterMap_append]
    cases hs : ss[j]? with
    | none => simp
    | some s =>
      have hnone := added?_of_content?_eq_none (hempty j s hle (Nat.lt_succ_self j) hs)
      simp [hnone]

/-- Statements that can be read add one entry each, at the place that is counted in front of
them. -/
theorem getElem?_linesBefore (hreads : ∀ s ∈ ss, s.Reads) {j : Nat} {s : Statement} {text : Text}
    (hs : ss[j]? = some s) (hcontent : s.content? = some text) :
    ∃ line reference, Line.read text = .ok (line, reference) ∧
      (ss.filterMap added?)[linesBefore ss j]? = some ⟨line, reference, s.line⟩ := by
  obtain ⟨line, reference, hread⟩ := hreads s (List.mem_of_getElem? hs) text hcontent
  have hentry : s.added? = some ⟨line, reference, s.line⟩ := by simp [added?, hcontent, hread]
  have hsplit := congrArg (List.filterMap added?) (take_append_cons_drop hs)
  rw [List.filterMap_append, List.filterMap_cons_some hentry] at hsplit
  refine ⟨line, reference, hread, ?_⟩
  rw [← hsplit, linesBefore, List.getElem?_append_right (Nat.le_refl _), Nat.sub_self]
  rfl

end Statement

namespace Program

variable {base : Int} {source : Text} {p : Program} (hprogram : assemble base source = .ok p)
include hprogram

theorem base_of_assemble : p.base = base := by
  obtain ⟨d, -, -, hp⟩ := exists_draft_of_assemble hprogram
  rw [hp]
  rfl

/-- The lines of an assembled source are those of its statements, counted through, each with the
bytes that its statement stands for. -/
theorem exists_line_of_statement {j : Nat} {s : Statement} {text : Text}
    (hs : (Source.statements source)[j]? = some s) (hcontent : s.content? = some text) :
    ∃ line, p.lines[Statement.linesBefore (Source.statements source) j]? = some line ∧
      Line.Emits p.symbols text line.bytes := by
  obtain ⟨d, hholds, hresolves, hp⟩ := exists_draft_of_assemble hprogram
  obtain ⟨line, reference, hread, hentry⟩ :=
    Statement.getElem?_linesBefore hholds.reads hs hcontent
  have hentries : (d.program base).entries = (Source.statements source).filterMap
      Statement.added? := hholds.entries
  rw [← hentries] at hentry
  obtain ⟨hindex, hget⟩ := List.getElem?_eq_some_iff.1 hentry
  have hresolved := List.Forall₂.get hresolves hindex (hresolves.length_eq ▸ hindex)
  simp only [List.get_eq_getElem, hget] at hresolved
  have hemits := Line.emits_of_resolves hread hresolved
  rw [← symbols_of_resolves hresolves, ← hp] at hemits
  refine ⟨_, ?_, hemits⟩
  rw [lines, List.getElem?_map, List.getElem?_eq_getElem (hresolves.length_eq ▸ hindex)]
  rfl

/-- A label names the address behind the lines of the statements in front of its definition. -/
theorem lookup_symbols_of_assemble {k : Nat} {s : Statement} {label : Label}
    (hs : (Source.statements source)[k]? = some s) (hlabel : s.label? = some label) :
    p.symbols.lookup label =
      some (p.addressOf (Statement.linesBefore (Source.statements source) k)) := by
  obtain ⟨d, hholds, -, hp⟩ := exists_draft_of_assemble hprogram
  have hlabels : p.labels = d.labels.toList := by
    rw [hp]
    rfl
  rw [lookup_symbols, hlabels, hholds.lookup_labels hs hlabel]
  rfl

theorem map_fst_symbols_of_assemble :
    p.symbols.map Prod.fst = (Source.statements source).filterMap Statement.label? := by
  obtain ⟨d, hholds, -, hp⟩ := exists_draft_of_assemble hprogram
  have hlabels : p.labels = d.labels.toList := by
    rw [hp]
    rfl
  rw [map_fst_symbols, hlabels, hholds.labels, Statement.map_fst_marksFrom]

/-- All lines are counted in front of the statements behind which nothing stands. -/
theorem linesBefore_eq_length {k : Nat}
    (hempty : ∀ i s, k ≤ i → (Source.statements source)[i]? = some s → s.content? = none) :
    Statement.linesBefore (Source.statements source) k = p.lines.length := by
  obtain ⟨d, hholds, hresolves, -⟩ := exists_draft_of_assemble hprogram
  have hlength :
      p.lines.length = ((Source.statements source).filterMap Statement.added?).length := by
    rw [lines, List.length_map, ← hresolves.length_eq, ← hholds.entries]
    rfl
  have hall := Statement.linesBefore_eq (Nat.le_max_left k (Source.statements source).length)
    fun i s hi _ => hempty i s hi
  rw [hlength, ← hall, Statement.linesBefore, List.take_of_length_le (Nat.le_max_right _ _)]

end Program

namespace Emulator

variable {ρ : Type}

/-- An emulator `after` that holds the program of the statements `ss`, and was `before` it was
loaded. -/
structure Holds (after : Emulator ρ) (p : Program) (ss : List Statement) (before : Emulator ρ) :
    Prop where
  /-- at the address of an instruction its word is fetched, and decoded to the instruction -/
  instruction : ∀ (k : Nat) (i : Instruction), p.lines[k]? = some (.instruction i) →
    after.machine.memory.readWord (p.addressOf k) = i.encode ∧
      after.machine.memory.instructionAt (p.addressOf k) = i
  /-- at the address of a block of data stand its bytes -/
  data : ∀ (k : Nat) (bytes : List UInt8), p.lines[k]? = some (.data bytes) →
    after.machine.memory.readBlock (p.addressOf k) bytes.length = bytes
  /-- a label is the address of the line of the statement that follows it, and there stand the bytes
  of this statement -/
  label : ∀ (k j : Nat) (s : Statement) (name : Label) (text : Text), ss[k]? = some s →
    s.label? = some name → Statement.Marks ss k j text →
    ∃ line, p.lines[Statement.linesBefore ss j]? = some line ∧
      Line.Emits p.symbols text line.bytes ∧
      p.symbols.lookup name = some (p.addressOf (Statement.linesBefore ss j)) ∧
      after.machine.memory.readBlock (p.addressOf (Statement.linesBefore ss j)) line.size =
        line.bytes
  /-- a label that no statement follows is the address behind the program -/
  lastLabel : ∀ (k : Nat) (s : Statement) (name : Label), ss[k]? = some s →
    s.label? = some name → (∀ i t, k ≤ i → ss[i]? = some t → t.content? = none) →
    p.symbols.lookup name = some ((0x200 : Int) + p.bytes.length)
  /-- there are no other labels -/
  names : p.symbols.map Prod.fst = ss.filterMap Statement.label?
  pc : after.pc = 0x200
  /-- in front of the program and behind it memory is as it was -/
  outside : ∀ cell : Address, cell.val < 0x200 ∨ 0x200 + p.bytes.length ≤ cell.val →
    after.machine.memory.cells[cell] = before.machine.memory.cells[cell]

/-- An emulator that is loaded with an assembled source finds every line, and the statement behind
every label, at the address that the assembler gave it. -/
theorem holds_of_assemble (e : Emulator ρ) (a : Assembler) (source : Text) (rom : List UInt8)
    (hbase : a.base = programStart) (hassemble : (a.assemble source).1 = .ok rom)
    (hfit : rom.length ≤ 3584) :
    ∃ p after, (a.assemble source).2.program = some p ∧ e.load rom programStart = .ok after ∧
      after.Holds p (Source.statements source) e := by
  obtain ⟨p, hprogram, hkept, rfl⟩ := Assembler.exists_program_of_assemble hassemble
  have hstart : p.base = 0x200 := (Program.base_of_assemble hprogram).trans hbase
  have hroom : (p.bytes.length : Int) ≤ Machine.room programStart := by
    change (p.bytes.length : Int) ≤ 4096 - 0x200
    omega
  have hmemory : p.bytes.length ≤ 4096 := by omega
  refine ⟨p, _, hkept, e.load_eq_ok hroom, ?_⟩
  have hlines : ∀ {k : Nat} {line : Line}, p.lines[k]? = some line →
      (e.machine.memory.load programStart p.bytes).readBlock (p.addressOf k) line.size =
        line.bytes := by
    intro k line hline
    rw [← show p.base = programStart from hstart]
    exact Program.readBlock_addressOf _ hmemory hline
  exact
    { instruction := by
        intro k i hline
        have hword := Memory.readWord_of_bytesOfWord i.encode_lt (hlines hline)
        exact ⟨hword, (congrArg decode hword).trans i.decode_encode⟩
      data := fun k bytes hline => hlines hline
      label := by
        intro k j s name text hs hname hmarks
        obtain ⟨t, ht, hcontent⟩ := hmarks.carries
        obtain ⟨line, hline, hemits⟩ := Program.exists_line_of_statement hprogram ht hcontent
        have hsymbol := Program.lookup_symbols_of_assemble hprogram hs hname
        rw [← Statement.linesBefore_eq hmarks.le hmarks.skipped] at hsymbol
        exact ⟨line, hline, hemits, hsymbol, hlines hline⟩
      lastLabel := by
        intro k s name hs hname hempty
        rw [Program.lookup_symbols_of_assemble hprogram hs hname,
          Program.linesBefore_eq_length hprogram hempty, p.addressOf_length, hstart]
      names := Program.map_fst_symbols_of_assemble hprogram
      pc := rfl
      outside := by
        intro cell hcell
        rw [← Memory.read_val, ← Memory.read_val]
        refine Memory.read_load_of_le_offset _ hmemory ?_
        unfold programStart offset
        omega }

theorem holds_of_assemble_mixed :
    (({ base := 0x200 } : Assembler).assemble Assembler.mixedSource).1 =
        .ok [0x12, 0x07, 1, 2, 3, 0x22, 0x00] ∧
      ∃ p after,
        (({ base := 0x200 } : Assembler).assemble Assembler.mixedSource).2.program = some p ∧
        (initial {} (Tape.ofList [7])).load [0x12, 0x07, 1, 2, 3, 0x22, 0x00] 0x200 = .ok after ∧
        after.Holds p (Source.statements Assembler.mixedSource) (initial {} (Tape.ofList [7])) :=
  ⟨by decide +kernel, holds_of_assemble (initial {} (Tape.ofList [7])) { base := 0x200 }
    Assembler.mixedSource _ rfl (by decide +kernel) (by decide)⟩

end Emulator

end Chip8
