/-
# The layout of an assembled source

The bytes of an assembled source are the chunks of its statements in source order, and every label
is the address of the place where it is defined. Both passes go over different lists: the first
counts entries in front of a label, the second adds up sizes of lines, some of which it has changed.
The main statement joins them with the statements of the source, chunk by chunk.
-/

import Chip8.Assembler
import Chip8.Proofs.Instruction.Building
import Chip8.Proofs.Program.Drafts
import Chip8.Proofs.Program.References

namespace Chip8

namespace Line

/-- The bytes that the content of a statement stands for, under a table of symbols. A jump or call
to a label is the word of its class with the address of the label; everything else is the encoding
of the content read on its own. -/
inductive Emits (symbols : List (Label × Int)) : Text → List UInt8 → Prop
  | jump {text : Text} {label : Label} {address : Int}
      (refers : Refers text jumpMnemonic label)
      (symbol : symbols.lookup label = some address)
      (lower : 0 ≤ address) (upper : address ≤ 0xFFF) :
      Emits symbols text (bytesOfWord (0x1000 ||| address.toNat))
  | call {text : Text} {label : Label} {address : Int}
      (refers : Refers text callMnemonic label)
      (symbol : symbols.lookup label = some address)
      (lower : 0 ≤ address) (upper : address ≤ 0xFFF) :
      Emits symbols text (bytesOfWord (0x2000 ||| address.toNat))
  | other {text : Text} {line : Line}
      (noJump : ∀ label, ¬ Refers text jumpMnemonic label)
      (noCall : ∀ label, ¬ Refers text callMnemonic label)
      (reads : Line.read text = .ok (line, none)) :
      Emits symbols text line.bytes

/-- A placeholder that takes an address becomes the word of its class with that address. -/
theorem emits_of_resolves {p : Program} {text : Text} {line : Line} {reference : Option Label}
    {sourceLine : Int} {resolved : Entry} (hread : Line.read text = .ok (line, reference))
    (hresolves : p.Resolves ⟨line, reference, sourceLine⟩ resolved) :
    Emits p.symbols text resolved.line.bytes := by
  cases reference with
  | none =>
    obtain rfl := hresolves
    exact .other (not_refers_of_read hread (.inl rfl)) (not_refers_of_read hread (.inr rfl)) hread
  | some label =>
    obtain ⟨address, index, changed, haddress, hchanged, rfl⟩ := hresolves
    obtain ⟨hsymbol, hmax⟩ := Program.symbol_of_addressOfLabel haddress
    rcases refers_of_read hread with ⟨hrefers, rfl⟩ | ⟨hrefers, rfl⟩
    · obtain ⟨hlower, -, hbytes⟩ := bytes_of_withAddress .jp (.inl rfl) hchanged
      rw [hbytes]
      exact .jump hrefers hsymbol hlower hmax
    · obtain ⟨hlower, -, hbytes⟩ := bytes_of_withAddress .call (.inr rfl) hchanged
      rw [hbytes]
      exact .call hrefers hsymbol hlower hmax

end Line

namespace Statement

/-- The chunk of a statement: nothing if it only defines a label. -/
def Emits (symbols : List (Label × Int)) (s : Statement) (chunk : List UInt8) : Prop :=
  match s.content? with
  | some text => Line.Emits symbols text chunk
  | none => chunk = []

/-- Statements with their resolved entries: one chunk a statement, the chunks together are the bytes
of the resolved lines, and each chunk is as long as the entry of its statement. -/
theorem exists_chunks {p : Program} {ss : List Statement} {resolved : List Entry}
    (hreads : ∀ s ∈ ss, s.Reads)
    (hresolves : List.Forall₂ p.Resolves (ss.filterMap added?) resolved) :
    ∃ chunks : List (List UInt8),
      List.Forall₂ (Emits p.symbols) ss chunks ∧
      (resolved.map Entry.line).flatMap Line.bytes = chunks.flatten ∧
      ∀ k, (chunks.take k).flatten.length =
        Line.totalSize (((ss.take k).filterMap added?).map Entry.line) := by
  -- A statement that only defines a label has a chunk but no entry, so the two lists advance at
  -- different places.
  induction ss generalizing resolved with
  | nil =>
    cases hresolves
    exact ⟨[], .nil, rfl, fun k => by simp [Line.totalSize]⟩
  | cons s rest ih =>
    have hrest := fun t ht => hreads t (List.mem_cons_of_mem s ht)
    cases hcontent : s.content? with
    | none =>
      have hentry : s.added? = none := by simp [added?, hcontent]
      rw [List.filterMap_cons_none hentry] at hresolves
      obtain ⟨chunks, hemits, hbytes, hsizes⟩ := ih hrest hresolves
      refine ⟨[] :: chunks, .cons ?_ hemits, by simpa using hbytes, ?_⟩
      · simp [Emits, hcontent]
      · intro k
        cases k with
        | zero => simp [Line.totalSize]
        | succ k => simpa [List.filterMap_cons_none hentry] using hsizes k
    | some text =>
      obtain ⟨line, reference, hread⟩ := hreads s List.mem_cons_self text hcontent
      have hentry : s.added? = some ⟨line, reference, s.line⟩ := by simp [added?, hcontent, hread]
      rw [List.filterMap_cons_some hentry] at hresolves
      obtain ⟨first, others, hfirst, hothers, rfl⟩ := List.forall₂_cons_left_iff.1 hresolves
      obtain ⟨chunks, hemits, hbytes, hsizes⟩ := ih hrest hothers
      refine ⟨first.line.bytes :: chunks, .cons ?_ hemits, by simp [hbytes], ?_⟩
      · simp only [Emits, hcontent]
        exact Line.emits_of_resolves hread hfirst
      · intro k
        cases k with
        | zero => simp [Line.totalSize]
        | succ k =>
          have hsize := Program.size_of_resolves hfirst
          simp only [List.take_succ_cons, List.flatten_cons, List.length_append, Line.length_bytes,
            List.filterMap_cons_some hentry, List.map_cons, Line.totalSize, hsizes k, hsize]

end Statement

namespace Draft

/-- In a faultless draft a label marks the line behind the entries of the statements in front of its
definition. -/
theorem Holds.lookup_labels {d : Draft} {ss : List Statement} (hholds : d.Holds ss) {k : Nat}
    {s : Statement} {label : Label} (hs : ss[k]? = some s) (hlabel : s.label? = some label) :
    d.labels.toList.lookup label =
      some (((ss.take k).filterMap Statement.added?).length : Int) := by
  refine lookup_of_mem ?_ ?_
  · rw [hholds.labels, Statement.map_fst_marksFrom]
    exact hholds.nodup
  · rw [hholds.labels]
    exact Statement.mem_marksFrom_zero hs hlabel

/-- Its address is the one behind those entries. -/
theorem Holds.lookup_symbols {d : Draft} {ss : List Statement} (hholds : d.Holds ss) (base : Int)
    {k : Nat} {s : Statement} {label : Label} (hs : ss[k]? = some s)
    (hlabel : s.label? = some label) :
    (d.program base).symbols.lookup label =
      some (base + Line.totalSize (((ss.take k).filterMap Statement.added?).map Entry.line)) := by
  let before := (ss.take k).filterMap Statement.added?
  have hsplit : d.entries.toList = before ++ (ss.drop k).filterMap Statement.added? := by
    rw [hholds.entries, ← List.filterMap_append, List.take_append_drop]
  have hlines : (d.program base).lines.take
      (elementsBefore (d.program base).lines.length before.length) = before.map Entry.line := by
    simp [Program.lines, Draft.program, hsplit, elementsBefore]
  rw [Program.lookup_symbols]
  change (d.labels.toList.lookup label).map _ = _
  rw [hholds.lookup_labels hs hlabel, Option.map_some]
  simp only [Program.addressOf, Program.offsetOf, before] at hlines ⊢
  rw [hlines]
  rfl

end Draft

namespace Program

/-- The program of a source is that of a faultless draft. -/
theorem exists_draft_of_ofSource {base : Int} {source : Text} {p : Program}
    (hsource : ofSource base source = .ok p) :
    ∃ d : Draft, d.Holds (Source.statements source) ∧ p = d.program base := by
  unfold ofSource at hsource
  cases hdraft : Draft.ofSource source with
  | error bound => rw [hdraft] at hsource; cases hsource
  | ok d =>
    rw [hdraft] at hsource
    dsimp only at hsource
    split at hsource
    · rename_i hclean
      exact ⟨d, Draft.holds_of_ofSource hdraft hclean, (Except.ok.inj hsource).symm⟩
    · cases hsource

/-- The program of an assembled source is that of a faultless draft with every entry resolved. -/
theorem exists_draft_of_assemble {base : Int} {source : Text} {p : Program}
    (hprogram : assemble base source = .ok p) :
    ∃ d : Draft, d.Holds (Source.statements source) ∧
      List.Forall₂ (d.program base).Resolves (d.program base).entries p.entries ∧
      p = { d.program base with entries := p.entries } := by
  unfold assemble at hprogram
  cases hsource : ofSource base source with
  | error cause => rw [hsource] at hprogram; cases hprogram
  | ok q =>
    obtain ⟨d, hholds, rfl⟩ := exists_draft_of_ofSource hsource
    simp only [hsource, bind, Except.bind] at hprogram
    cases herror : (d.program base).resolve.error with
    | some cause => rw [herror] at hprogram; cases hprogram
    | none =>
      rw [herror] at hprogram
      obtain rfl := Except.ok.inj hprogram
      exact ⟨d, hholds, forall₂_resolves_resolve herror, program_resolve _⟩

end Program

namespace Assembler

/-- What an assembler gives and keeps is the program of the source. -/
theorem exists_program_of_assemble {a : Assembler} {source : Text} {rom : List UInt8}
    (hassemble : (a.assemble source).1 = .ok rom) :
    ∃ p, Program.assemble a.base source = .ok p ∧ (a.assemble source).2.program = some p ∧
      rom = p.bytes := by
  unfold assemble at hassemble ⊢
  cases hprogram : Program.assemble a.base source with
  | error cause => rw [hprogram] at hassemble; cases hassemble
  | ok p =>
    rw [hprogram] at hassemble
    exact ⟨p, rfl, rfl, (Except.ok.inj hassemble).symm⟩

/-- What an assembler keeps of a source that it has assembled: the program of a faultless draft,
every entry resolved. -/
theorem exists_draft_of_assemble {a : Assembler} {source : Text} {rom : List UInt8}
    (hassemble : (a.assemble source).1 = .ok rom) :
    ∃ (d : Draft) (resolved : List Entry),
      d.Holds (Source.statements source) ∧
      List.Forall₂ (d.program a.base).Resolves (d.program a.base).entries resolved ∧
      rom = (resolved.map Entry.line).flatMap Line.bytes ∧
      (a.assemble source).2.symbols = (d.program a.base).symbols := by
  obtain ⟨p, hprogram, hkept, rfl⟩ := exists_program_of_assemble hassemble
  obtain ⟨d, hholds, hresolves, hp⟩ := Program.exists_draft_of_assemble hprogram
  have hsymbols : (a.assemble source).2.symbols = p.symbols := by rw [symbols, hkept]
  refine ⟨d, p.entries, hholds, hresolves, rfl, ?_⟩
  rw [hsymbols, hp, Program.symbols_of_resolves hresolves]

/-- Chunks that lay out statements from a base address on. -/
structure IsLayout (base : Int) (ss : List Statement) (symbols : List (Label × Int))
    (rom : List UInt8) (chunks : List (List UInt8)) : Prop where
  /-- the bytes are the chunks, in the order of the statements -/
  bytes : rom = chunks.flatten
  /-- every chunk is what its statement emits, and a statement that only defines a label has none -/
  emits : List.Forall₂ (Statement.Emits symbols) ss chunks
  /-- a label is the base and the number of bytes emitted in front of its definition -/
  address : ∀ (k : Nat) (s : Statement) (label : Label), ss[k]? = some s →
    s.label? = some label → symbols.lookup label = some (base + (chunks.take k).flatten.length)
  /-- the symbols are the labels that the statements define, in order -/
  names : symbols.map Prod.fst = ss.filterMap Statement.label?
  /-- no label is defined twice -/
  nodup : (ss.filterMap Statement.label?).Nodup

/-- An assembled source is laid out statement by statement: forward and backward references alike
hold the address of the place where their label is defined. -/
theorem layout_of_assemble (a : Assembler) (source : Text) (rom : List UInt8)
    (hassemble : (a.assemble source).1 = .ok rom) :
    ∃ chunks : List (List UInt8),
      IsLayout a.base (Source.statements source) (a.assemble source).2.symbols rom chunks := by
  obtain ⟨d, resolved, hholds, hresolves, hrom, hsymbols⟩ := exists_draft_of_assemble hassemble
  have hentries : (d.program a.base).entries =
      (Source.statements source).filterMap Statement.added? := hholds.entries
  rw [hentries] at hresolves
  obtain ⟨chunks, hemits, hbytes, hsizes⟩ := Statement.exists_chunks hholds.reads hresolves
  rw [hsymbols]
  refine ⟨chunks, hrom.trans hbytes, hemits, ?_, ?_, hholds.nodup⟩
  · intro k s label hs hlabel
    rw [hholds.lookup_symbols a.base hs hlabel, hsizes k]
  · have hnames : (d.program a.base).symbols.map Prod.fst = d.labels.toList.map Prod.fst := by
      simp [Program.symbols, Draft.program, Function.comp_def]
    rw [hnames, hholds.labels, Statement.map_fst_marksFrom]

/-- A jump forward over three bytes of data to a label at the end, and a call back. -/
def mixedSource : Text :=
  "Start: jp END\nbytes 1 0x2 3; call start # back\nend:".toList

theorem layout_of_assemble_mixed :
    (({ base := 0x200 } : Assembler).assemble mixedSource).1 =
        .ok [0x12, 0x07, 1, 2, 3, 0x22, 0x00] ∧
      ∃ chunks, IsLayout 0x200 (Source.statements mixedSource)
        (({ base := 0x200 } : Assembler).assemble mixedSource).2.symbols
        [0x12, 0x07, 1, 2, 3, 0x22, 0x00] chunks :=
  ⟨by decide +kernel, layout_of_assemble { base := 0x200 } mixedSource _ (by decide +kernel)⟩

end Assembler

end Chip8
