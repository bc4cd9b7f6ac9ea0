/-
# A source behind another source

A source may be continued on a new line. Its statements then keep their places and their lines, and
those of the continuation follow them, whatever the source ends with: a comment, a label, or a line
end of any kind. Since labels are marked and addresses added up from the front, nothing of the first
source moves. Its labels keep their addresses and its bytes their values, although the references in
it are resolved in the table of the whole text.
-/

import Chip8.Proofs.Program.Plain
import Chip8.Proofs.Program.Resolving

namespace Chip8

/-! ## Statements of two sources -/

/-- Only the empty text has no lines. -/
theorem Text.lines_ne_nil {t : Text} (hne : t ≠ []) : lines t ≠ [] := by
  unfold lines
  split
  · exact absurd rfl hne
  · exact List.cons_ne_nil _ _
  · split
    · exact List.cons_ne_nil _ _
    · split <;> exact List.cons_ne_nil _ _

/-- A line feed divides the lines of a text. What stands in front of it is closed by it, or was
closed already, and then it leaves an empty line. -/
theorem Text.exists_lines_append_lineFeed (t : Text) :
    ∃ gap : List Text, (∀ line ∈ gap, line = []) ∧
      ∀ rest, lines (t ++ '\n' :: rest) = lines t ++ gap ++ lines rest := by
  have hfeed : ∀ rest, lines ('\n' :: rest) = [] :: lines rest := fun rest => by
    simp [lines, show isLineEnd '\n' = true from rfl]
  induction t using lines.induct with
  | case1 => exact ⟨[[]], by simp, fun rest => by simp [hfeed, lines]⟩
  | case2 t ih =>
    obtain ⟨gap, hgap, hlines⟩ := ih
    exact ⟨gap, hgap, fun rest => by simp [lines, hlines]⟩
  | case3 c t hsingle hend ih =>
    by_cases hreturn : c = '\r' ∧ t = []
    · -- The line feed belongs to the line end in front of it.
      obtain ⟨rfl, rfl⟩ := hreturn
      exact ⟨[], by simp, fun rest => by simp [lines, hend]⟩
    · obtain ⟨gap, hgap, hlines⟩ := ih
      have hclosed : ∀ u : Text, (∀ other, c = '\r' → u ≠ '\n' :: other) →
          lines (c :: u) = [] :: lines u := by
        intro u hu
        rw [lines, if_pos hend]
        exact hu
      refine ⟨gap, hgap, fun rest => ?_⟩
      rw [List.cons_append, hclosed t fun other hc ht => hsingle other hc ht, hclosed, hlines]
      · rfl
      · rintro other rfl hother
        cases t with
        | nil => exact hreturn ⟨rfl, rfl⟩
        | cons d t =>
          obtain ⟨rfl, -⟩ := List.cons.inj hother
          exact hsingle t rfl rfl
  | case4 c t _ hend _ ih | case5 c t _ hend _ _ _ ih =>
    have hinline : isLineEnd c = false := Bool.eq_false_iff.2 hend
    obtain ⟨gap, hgap, hlines⟩ := ih
    cases t with
    | nil =>
      -- The line feed closes the line that the character has begun.
      refine ⟨[], by simp, fun rest => ?_⟩
      rw [List.cons_append, List.nil_append, lines_cons_of_not_isLineEnd hinline, hfeed,
        lines_cons_of_not_isLineEnd hinline]
      rfl
    | cons d t =>
      obtain ⟨line, others, hfirst⟩ :=
        List.exists_cons_of_ne_nil (lines_ne_nil (List.cons_ne_nil d t))
      refine ⟨gap, hgap, fun rest => ?_⟩
      rw [List.cons_append, lines_cons hinline hfirst, lines_cons hinline]
      · rfl
      · rw [hlines, hfirst]
        rfl

namespace Statement

/-- The statement with its line moved down. -/
def moved (down : Nat) (s : Statement) : Statement := { s with line := s.line + down }

/-- Where a statement stands makes no difference to the line that it adds to a program. -/
theorem map_line_added?_moved (down : Nat) (ss : List Statement) :
    ((ss.map (moved down)).filterMap added?).map Entry.line =
      (ss.filterMap added?).map Entry.line := by
  have hline : ∀ s : Statement, (s.moved down).added?.map Entry.line = s.added?.map Entry.line := by
    intro s
    have hcontent : (s.moved down).content? = s.content? := rfl
    unfold added?
    rw [hcontent]
    split <;> rfl
  rw [List.filterMap_map, List.map_filterMap, List.map_filterMap]
  exact List.filterMap_congr fun s _ => hline s

end Statement

theorem Source.statements_eq_flatMap (source : Text) :
    statements source = (Text.lines source).zipIdx.flatMap fun row =>
      (lineStatements row.1).map fun text => { line := row.2 + 1, text } := rfl

/-- The statements of a source and of another one on the lines behind it: the first stay where they
are, and the others move down. -/
theorem Source.exists_statements_append (first second : Text) :
    ∃ down, statements (first ++ '\n' :: second) =
      statements first ++ (statements second).map (Statement.moved down) := by
  obtain ⟨gap, hgap, hlines⟩ := Text.exists_lines_append_lineFeed first
  have hempty : ∀ index, (gap.zipIdx index).flatMap (fun row =>
      (lineStatements row.1).map fun text => ({ line := row.2 + 1, text } : Statement)) = [] := by
    intro index
    rw [List.flatMap_eq_nil_iff]
    intro row hmem
    rw [hgap row.1 (List.fst_mem_of_mem_zipIdx hmem)]
    rfl
  refine ⟨(Text.lines first ++ gap).length, ?_⟩
  simp only [statements_eq_flatMap]
  rw [hlines, List.zipIdx_append, List.zipIdx_append, List.flatMap_append, List.flatMap_append,
    hempty, List.append_nil, Nat.zero_add, List.map_flatMap,
    List.zipIdx_eq_map_add (l := Text.lines second), List.flatMap_map]
  congr 1
  refine List.flatMap_congr fun row _ => ?_
  rw [List.map_map]
  refine List.map_congr_left fun text _ => ?_
  simp only [Function.comp_apply, Statement.moved, Statement.mk.injEq, and_true]
  omega

/-! ## Chunks under a longer table -/

namespace Line

variable {symbols more : List (Label × Int)} {text : Text} {chunk other : List UInt8}

/-- A statement stands for the same bytes under every table with the symbols that it uses. -/
theorem Emits.mono (hmore : symbols <+: more) (hemits : Emits symbols text chunk) :
    Emits more text chunk := by
  obtain ⟨rest, rfl⟩ := hmore
  have hfound : ∀ {label address}, symbols.lookup label = some address →
      (symbols ++ rest).lookup label = some address := fun hsymbol => by
    rw [List.lookup_append, hsymbol, Option.some_or]
  cases hemits with
  | jump hrefers hsymbol hlower hupper => exact .jump hrefers (hfound hsymbol) hlower hupper
  | call hrefers hsymbol hlower hupper => exact .call hrefers (hfound hsymbol) hlower hupper
  | other hjump hcall hreads => exact .other hjump hcall hreads

/-- A statement refers to one label at most, by one mnemonic. -/
theorem Refers.unique {mnemonic mnemonic' : Text} {label label' : Label}
    (hrefers : Refers text mnemonic label) (hrefers' : Refers text mnemonic' label') :
    mnemonic = mnemonic' ∧ label = label' := by
  have hwords := hrefers.words.symm.trans hrefers'.words
  simpa using hwords

/-- Under one table a statement stands for one chunk of bytes only. -/
theorem Emits.unique (hemits : Emits symbols text chunk) (hother : Emits symbols text other) :
    chunk = other := by
  have hdistinct : jumpMnemonic ≠ callMnemonic := by decide
  cases hemits with
  | jump hrefers hsymbol =>
    cases hother with
    | jump hrefers' hsymbol' =>
      obtain ⟨-, rfl⟩ := hrefers.unique hrefers'
      obtain rfl := Option.some.inj (hsymbol.symm.trans hsymbol')
      rfl
    | call hrefers' => exact absurd (hrefers.unique hrefers').1 hdistinct
    | other hjump => exact absurd hrefers (hjump _)
  | call hrefers hsymbol =>
    cases hother with
    | jump hrefers' => exact absurd (hrefers'.unique hrefers).1 hdistinct
    | call hrefers' hsymbol' =>
      obtain ⟨-, rfl⟩ := hrefers.unique hrefers'
      obtain rfl := Option.some.inj (hsymbol.symm.trans hsymbol')
      rfl
    | other _ hcall => exact absurd hrefers (hcall _)
  | other hjump hcall hreads =>
    cases hother with
    | jump hrefers' => exact absurd hrefers' (hjump _)
    | call hrefers' => exact absurd hrefers' (hcall _)
    | other _ _ hreads' =>
      obtain ⟨rfl, -⟩ := Prod.mk.inj (Except.ok.inj (hreads.symm.trans hreads'))
      rfl

end Line

namespace Statement

variable {symbols more : List (Label × Int)} {s : Statement} {chunk other : List UInt8}

theorem Emits.mono (hmore : symbols <+: more) (hemits : s.Emits symbols chunk) :
    s.Emits more chunk := by
  unfold Emits at *
  cases hcontent : s.content? with
  | none => rwa [hcontent] at hemits
  | some text =>
    rw [hcontent] at hemits
    exact Line.Emits.mono hmore hemits

theorem Emits.unique (hemits : s.Emits symbols chunk) (hother : s.Emits symbols other) :
    chunk = other := by
  unfold Emits at *
  cases hcontent : s.content? with
  | none =>
    rw [hcontent] at hemits hother
    rw [hemits, hother]
  | some text =>
    rw [hcontent] at hemits hother
    exact Line.Emits.unique hemits hother

end Statement

/-! ## Programs with more behind them -/

theorem Line.totalSize_append (front back : List Line) :
    totalSize (front ++ back) = totalSize front + totalSize back := by
  induction front with
  | nil => rw [List.nil_append, totalSize, Nat.zero_add]
  | cons l rest ih => rw [List.cons_append, totalSize, ih, totalSize, Nat.add_assoc]

namespace Program

variable {p q : Program}

/-- Lines behind a program move none of its own, nor its end. -/
theorem addressOf_of_isPrefix (hbase : q.base = p.base) (hlines : p.lines <+: q.lines) {index : Int}
    (hlower : 0 ≤ index) (hupper : index ≤ p.lines.length) :
    q.addressOf index = p.addressOf index := by
  obtain ⟨rest, hrest⟩ := hlines
  have hcount : index.toNat ≤ p.lines.length := by omega
  have hfirst : (p.lines ++ rest).take index.toNat = p.lines.take index.toNat :=
    List.take_append_of_le_length hcount
  have hshort : min p.lines.length index.toNat = index.toNat := Nat.min_eq_right hcount
  have hlong : min (p.lines ++ rest).length index.toNat = index.toNat :=
    Nat.min_eq_right (Nat.le_trans hcount (by simp))
  rw [addressOf, addressOf, offsetOf, offsetOf, elementsBefore, elementsBefore, ← hrest, hbase,
    if_pos hlower, if_pos hlower, hshort, hlong, hfirst]

/-- Its symbols stay in front. -/
theorem symbols_isPrefix (hbase : q.base = p.base) (hlines : p.lines <+: q.lines)
    (hlabels : p.labels <+: q.labels)
    (hmarks : ∀ label mark, (label, mark) ∈ p.labels → 0 ≤ mark ∧ mark ≤ p.lines.length) :
    p.symbols <+: q.symbols := by
  have hsame : p.symbols = p.labels.map fun entry => (entry.1, q.addressOf entry.2) := by
    refine List.map_congr_left fun entry hmem => ?_
    obtain ⟨hlower, hupper⟩ := hmarks entry.1 entry.2 hmem
    show (entry.1, p.addressOf entry.2) = (entry.1, q.addressOf entry.2)
    rw [addressOf_of_isPrefix hbase hlines hlower hupper]
  rw [hsame]
  exact hlabels.map fun entry => (entry.1, q.addressOf entry.2)

theorem totalSize_of_resolves {entries resolved : List Entry}
    (hresolves : List.Forall₂ p.Resolves entries resolved) :
    Line.totalSize (resolved.map Entry.line) = Line.totalSize (entries.map Entry.line) :=
  Line.totalSize_congr (by rw [List.map_map, List.map_map, map_size_of_resolves hresolves])

end Program

/-- What holds pairwise of two lists one behind the other holds of the parts. -/
theorem exists_append_of_forall₂ {α β : Type} {R : α → β → Prop} {front back : List α} {bs : List β}
    (hall : List.Forall₂ R (front ++ back) bs) :
    ∃ front' back', bs = front' ++ back' ∧ List.Forall₂ R front front' ∧
      List.Forall₂ R back back' := by
  induction front generalizing bs with
  | nil => exact ⟨[], bs, rfl, .nil, hall⟩
  | cons a front ih =>
    obtain ⟨b, rest, hfirst, hrest, rfl⟩ := List.forall₂_cons_left_iff.1 hall
    obtain ⟨front', back', rfl, hfront, hback⟩ := ih hrest
    exact ⟨b :: front', back', rfl, .cons hfirst hfront, hback⟩

/-- Statements that are resolved in two programs, alone and with others behind them: if the symbols
of the first program come first in the second, then so do the bytes. -/
theorem Statement.exists_chunks_append {p q : Program} {ss behind : List Statement}
    {resolved all : List Entry} (hsymbols : p.symbols <+: q.symbols)
    (hreads : ∀ s ∈ ss ++ behind, s.Reads)
    (hresolves : List.Forall₂ p.Resolves (ss.filterMap added?) resolved)
    (hall : List.Forall₂ q.Resolves ((ss ++ behind).filterMap added?) all) :
    ∃ chunks : List (List UInt8), List.Forall₂ (Emits q.symbols) behind chunks ∧
      (all.map Entry.line).flatMap Line.bytes =
        (resolved.map Entry.line).flatMap Line.bytes ++ chunks.flatten ∧
      ∀ k, (chunks.take k).flatten.length =
        Line.totalSize (((behind.take k).filterMap added?).map Entry.line) := by
  have hfirst : ∀ s ∈ ss, s.Reads := fun s hs => hreads s (List.mem_append_left _ hs)
  have hsecond : ∀ s ∈ behind, s.Reads := fun s hs => hreads s (List.mem_append_right _ hs)
  rw [List.filterMap_append] at hall
  obtain ⟨front, back, rfl, hfront, hback⟩ := exists_append_of_forall₂ hall
  obtain ⟨alone, halone, hbytes, -⟩ := exists_chunks hfirst hresolves
  obtain ⟨before, hbefore, hsame, -⟩ := exists_chunks hfirst hfront
  obtain ⟨chunks, hemits, hadded, hsizes⟩ := exists_chunks hsecond hback
  -- Both times the first statements stand for the same bytes, since no symbol has changed.
  have hunique : before = alone :=
    List.right_unique_forall₂' (fun _ _ _ hemits hother => hemits.unique hother) hbefore
      (halone.imp fun _ _ hemits => hemits.mono hsymbols)
  refine ⟨chunks, hemits, ?_, hsizes⟩
  rw [List.map_append, List.flatMap_append, hsame, hunique, ← hbytes, hadded]

theorem Draft.Holds.map_fst_symbols {d : Draft} {ss : List Statement} (hholds : d.Holds ss)
    (base : Int) : (d.program base).symbols.map Prod.fst = ss.filterMap Statement.label? := by
  rw [Program.map_fst_symbols, ← Statement.map_fst_marksFrom 0, ← hholds.labels]
  rfl

/-- Statements behind others change neither marks nor addresses of these. -/
theorem Draft.symbols_isPrefix_of_holds {d e : Draft} {ss behind : List Statement}
    (hholds : d.Holds ss) (hwhole : e.Holds (ss ++ behind)) (base : Int) :
    (d.program base).symbols <+: (e.program base).symbols := by
  refine Program.symbols_isPrefix rfl ?_ ?_ ?_
  · show d.entries.toList.map Entry.line <+: e.entries.toList.map Entry.line
    rw [hwhole.entries, hholds.entries, List.filterMap_append]
    exact (List.prefix_append _ _).map _
  · show d.labels.toList <+: e.labels.toList
    rw [hwhole.labels, hholds.labels, Statement.marksFrom_append]
    exact List.prefix_append _ _
  · intro label mark hmem
    simpa [Program.lines, Draft.program] using Program.bounds_of_mem_labels hholds hmem

/-- The address of a label behind other statements counts what these take first. -/
theorem Draft.Holds.lookup_symbols_append {d : Draft} {ss behind : List Statement}
    (hholds : d.Holds (ss ++ behind)) (base : Int) {k : Nat} {s : Statement} {label : Label}
    (hs : behind[k]? = some s) (hlabel : s.label? = some label) :
    (d.program base).symbols.lookup label =
      some (base + Line.totalSize ((ss.filterMap Statement.added?).map Entry.line) +
        Line.totalSize (((behind.take k).filterMap Statement.added?).map Entry.line)) := by
  have hplace : (ss ++ behind)[ss.length + k]? = some s := by
    rw [List.getElem?_append_right (Nat.le_add_right _ _), Nat.add_sub_cancel_left, hs]
  rw [hholds.lookup_symbols base hplace hlabel, List.take_length_add_append, List.filterMap_append,
    List.map_append, Line.totalSize_append, Int.natCast_add, Int.add_assoc]

namespace Assembler

/-- What a source behind another one adds to the bytes and symbols of that one. -/
structure IsContinuation (base : Int) (ss : List Statement) (rom : List UInt8)
    (symbols : List (Label × Int)) (whole : List UInt8) (allSymbols : List (Label × Int))
    (chunks : List (List UInt8)) : Prop where
  /-- the bytes of the first source stay in front of the chunks that are added -/
  bytes : whole = rom ++ chunks.flatten
  /-- its symbols stay in front, with their addresses -/
  keeps : symbols <+: allSymbols
  /-- every chunk that is added is what a statement of the second source emits -/
  emits : List.Forall₂ (Statement.Emits allSymbols) ss chunks
  /-- together the chunks are as long as the instructions and data of these statements -/
  size : chunks.flatten.length = Line.totalSize ((ss.filterMap Statement.added?).map Entry.line)
  /-- the symbols that are added are the labels of these statements -/
  names : allSymbols.map Prod.fst = symbols.map Prod.fst ++ ss.filterMap Statement.label?
  /-- and name the places of their definitions behind the bytes of the first source -/
  address : ∀ (k : Nat) (s : Statement) (label : Label), ss[k]? = some s →
    s.label? = some label →
    allSymbols.lookup label = some (base + rom.length + (chunks.take k).flatten.length)

/-- A source that is assembled alone and with another one on the lines behind it keeps its bytes and
its symbols. What is added are the chunks and the labels of the other one. -/
theorem continues_of_assemble (a : Assembler) (first second : Text) (rom whole : List UInt8)
    (hfirst : (a.assemble first).1 = .ok rom)
    (hwhole : (a.assemble (first ++ '\n' :: second)).1 = .ok whole) :
    ∃ chunks : List (List UInt8),
      IsContinuation a.base (Source.statements second) rom (a.assemble first).2.symbols whole
        (a.assemble (first ++ '\n' :: second)).2.symbols chunks := by
  obtain ⟨d, resolved, hholds, hresolves, rfl, hsymbols⟩ := exists_draft_of_assemble hfirst
  obtain ⟨e, all, hall, hallResolve, rfl, hallSymbols⟩ := exists_draft_of_assemble hwhole
  obtain ⟨down, hstatements⟩ := Source.exists_statements_append first second
  rw [hstatements] at hall
  have hkeeps := Draft.symbols_isPrefix_of_holds hholds hall a.base
  have hentries : (d.program a.base).entries =
      (Source.statements first).filterMap Statement.added? := hholds.entries
  have hallEntries : (e.program a.base).entries = (Source.statements first ++
      (Source.statements second).map (Statement.moved down)).filterMap Statement.added? :=
    hall.entries
  rw [hentries] at hresolves
  rw [hallEntries] at hallResolve
  obtain ⟨chunks, hemits, hbytes, hsizes⟩ :=
    Statement.exists_chunks_append hkeeps hall.reads hresolves hallResolve
  have hsizes : ∀ k, (chunks.take k).flatten.length = Line.totalSize
      ((((Source.statements second).take k).filterMap Statement.added?).map Entry.line) := by
    intro k
    rw [hsizes, ← List.map_take, Statement.map_line_added?_moved]
  have hlength : ((resolved.map Entry.line).flatMap Line.bytes).length =
      Line.totalSize (((Source.statements first).filterMap Statement.added?).map Entry.line) := by
    rw [Line.length_flatMap_bytes, Program.totalSize_of_resolves hresolves]
  have hemits : List.Forall₂ (Statement.Emits (e.program a.base).symbols)
      (Source.statements second) chunks := by
    rw [List.forall₂_map_left_iff] at hemits
    exact hemits
  rw [hsymbols, hallSymbols]
  refine ⟨chunks, hbytes, hkeeps, hemits, ?_, ?_, ?_⟩
  · have hall := hsizes chunks.length
    rwa [List.take_length, ← hemits.length_eq, List.take_length] at hall
  · rw [hall.map_fst_symbols, hholds.map_fst_symbols, List.filterMap_append, List.filterMap_map]
    rfl
  · intro k s label hs hlabel
    have hplace : ((Source.statements second).map (Statement.moved down))[k]? =
        some (s.moved down) := by
      rw [List.getElem?_map, hs]
      rfl
    rw [hall.lookup_symbols_append a.base hplace hlabel, hlength, ← List.map_take,
      Statement.map_line_added?_moved, hsizes]

/-- A source that ends with a label, a comment and a carriage return. Behind it the label marks a
call to the label in front. -/
def openSource : Text := "start: jp END\nbytes 1 0x2 3\nend: # more\r".toList

theorem continues_of_assemble_open :
    ((({ base := 0x200 } : Assembler).assemble openSource).1 = .ok [0x12, 0x05, 1, 2, 3] ∧
      (({ base := 0x200 } : Assembler).assemble
        (openSource ++ '\n' :: "call start\nlast: jp last".toList)).1 =
          .ok [0x12, 0x05, 1, 2, 3, 0x22, 0x00, 0x12, 0x07]) ∧
      ∃ chunks, IsContinuation 0x200 (Source.statements "call start\nlast: jp last".toList)
        [0x12, 0x05, 1, 2, 3] (({ base := 0x200 } : Assembler).assemble openSource).2.symbols
        [0x12, 0x05, 1, 2, 3, 0x22, 0x00, 0x12, 0x07]
        (({ base := 0x200 } : Assembler).assemble
          (openSource ++ '\n' :: "call start\nlast: jp last".toList)).2.symbols chunks := by
  have hfirst : (({ base := 0x200 } : Assembler).assemble openSource).1 =
      .ok [0x12, 0x05, 1, 2, 3] := by decide +kernel
  have hwhole : (({ base := 0x200 } : Assembler).assemble
      (openSource ++ '\n' :: "call start\nlast: jp last".toList)).1 =
        .ok [0x12, 0x05, 1, 2, 3, 0x22, 0x00, 0x12, 0x07] := by decide +kernel
  exact ⟨⟨hfirst, hwhole⟩, continues_of_assemble { base := 0x200 } openSource _ _ _ hfirst hwhole⟩

end Assembler

end Chip8
