/-
# Sources of plain statements

A source that is printed holds one statement for each line of a program: no comments, no labels and
no references. Every statement adds the line that it was printed from, and with nothing to resolve
the program is exactly these lines.
-/

import Mathlib.Data.List.Forall2
import Chip8.Assembler
import Chip8.Proofs.Instruction.Spelling
import Chip8.Proofs.Text.Inline

namespace Chip8

namespace Source

theorem map_text_rows (rows : List Text) (first : Nat) :
    ((rows.zipIdx first).flatMap fun (row, index) =>
      (lineStatements row).map fun text => ({ line := index + 1, text } : Statement)).map
        Statement.text = rows.flatMap lineStatements := by
  induction rows generalizing first with
  | nil => rfl
  | cons row rows ih => simp [List.zipIdx_cons, ih (first + 1), Function.comp_def]

/-- The texts of the statements are those of the lines, in order. -/
theorem map_text_statements (source : Text) :
    (statements source).map Statement.text = (Text.lines source).flatMap lineStatements :=
  map_text_rows (Text.lines source) 0

end Source

namespace Line

/-- The text defines no label, refers to none, and is read as the line. -/
structure WrittenAs (l : Line) (t : Text) : Prop where
  noLabel : splitLabel? t = none
  reads : read t = .ok (l, none)

/-- A statement of plain characters defines no label. -/
theorem splitLabel?_eq_none {t : Text} (ht : t.IsStatement) : splitLabel? t = none := by
  have hcolon : t.dropWhile (· != ':') = [] := by
    rw [List.dropWhile_eq_nil_iff]
    intro c hc
    exact bne_iff_ne.2 (ht.ne_of_not_plain (by decide) (by decide) c hc)
  rw [splitLabel?, hcolon]

variable (i : Instruction)

/-- The text of an instruction refers to no label: a single operand is a register or a number. -/
theorem readReference?_text :
    readReference? (i.foldedMnemonic :: i.opcode.format.slots.map i.token) = none := by
  have hfields : ∀ op ∈ Opcode.all, op.format.slots.length = 1 →
      op.format.slots.all (·.field?.isSome) = true := by
    decide
  cases hslots : i.opcode.format.slots with
  | nil => rfl
  | cons slot rest =>
    cases rest with
    | cons => rfl
    | nil =>
      have hfield := hfields i.opcode (Opcode.mem_all i.opcode) (by rw [hslots]; rfl)
      rw [hslots] at hfield
      cases slot with
      | keyword k => exact absurd hfield Bool.false_ne_true
      | field f =>
        have haccepts := i.accepts_token (.field f)
        cases hf : f.isRegister with
        | true =>
          simp only [Slot.accepts, hf, if_true] at haccepts
          simp [readReference?, haccepts]
        | false =>
          have hname : isLabelName (i.token (.field f)) = false :=
            Operand.isLabelName_of_isNumeral
              (Instruction.denotes_fieldText hf (i.operand f)).isNumeral
          simp [readReference?, hname]

/-- The text of an instruction is read as a line without a reference. -/
theorem read_text : read i.text = .ok (.instruction i, none) := by
  have hbytes : ∀ op ∈ Opcode.all,
      op.format.mnemonic.map Char.toLower ≠ ['b', 'y', 't', 'e', 's'] := by
    decide
  have hhead : (some i.foldedMnemonic == some ['b', 'y', 't', 'e', 's']) = false :=
    beq_eq_false_iff_ne.2 fun heq =>
      hbytes i.opcode (Opcode.mem_all i.opcode) (Option.some.inj heq)
  simp only [read, i.words_lower_text, List.head?_cons, hhead, readReference?_text, i.read_text]
  rfl

theorem writtenAs_text : (Line.instruction i).WrittenAs i.text :=
  ⟨splitLabel?_eq_none i.isStatement_text, read_text i⟩

end Line

namespace Draft

/-- A plain statement adds its line to a draft and nothing else. -/
theorem addStatement_of_writtenAs (d : Draft) {s : Statement} {l : Line}
    (hwritten : l.WrittenAs s.text) :
    d.addStatement s = .ok { d with entries := d.entries.push ⟨l, none, s.line⟩ } := by
  simp only [addStatement, hwritten.noLabel, addLine, hwritten.reads]

/-- Plain statements add their lines to a draft, in order. -/
theorem foldlM_of_writtenAs {ss : List Statement} {ls : List Line}
    (hwritten : List.Forall₂ (fun l s => Line.WrittenAs l s.text) ls ss) (d : Draft) :
    ∃ after, ss.foldlM addStatement d = .ok after ∧ after.labels = d.labels ∧
      after.faults = d.faults ∧
      ∃ added : List Entry, after.entries.toList = d.entries.toList ++ added ∧
        added.map Entry.line = ls ∧ ∀ e ∈ added, e.reference = none := by
  induction hwritten generalizing d with
  | nil => exact ⟨d, rfl, rfl, rfl, [], by simp, rfl, by simp⟩
  | @cons l s ls ss hfirst _ ih =>
    obtain ⟨after, hafter, hlabels, hfaults, added, hentries, hlines, hplain⟩ :=
      ih { d with entries := d.entries.push ⟨l, none, s.line⟩ }
    refine ⟨after, ?_, hlabels, hfaults, ⟨l, none, s.line⟩ :: added, ?_, by simp [hlines], ?_⟩
    · rw [List.foldlM_cons, d.addStatement_of_writtenAs hfirst]
      exact hafter
    · rw [hentries]
      simp
    · simpa using hplain

end Draft

namespace Program

/-- Without references there is nothing to resolve. -/
theorem resolveBehind_of_plain (p : Program) {es : List Entry}
    (hplain : ∀ e ∈ es, e.reference = none) (done : List Entry) :
    p.resolveBehind done es =
      { program := { p with entries := done.reverse ++ es }, resolved := [], error := none } := by
  induction es generalizing done with
  | nil => simp [resolveBehind]
  | cons e rest ih =>
    simp [resolveBehind, hplain e List.mem_cons_self,
      ih fun f hf => hplain f (List.mem_cons_of_mem e hf)]

/-- A source of plain statements is assembled to the lines that it was written from. -/
theorem assemble_of_writtenAs (base : Int) {source : Text} {ls : List Line}
    (hwritten : List.Forall₂ Line.WrittenAs ls ((Source.statements source).map Statement.text)) :
    ∃ p, assemble base source = .ok p ∧ p.lines = ls ∧ p.labels = [] ∧ p.base = base ∧
      ∀ e ∈ p.entries, e.reference = none := by
  obtain ⟨d, hdraft, hlabels, hfaults, added, hentries, hlines, hplain⟩ :=
    Draft.foldlM_of_writtenAs (List.forall₂_map_right_iff.1 hwritten) Draft.empty
  have hadded : (d.program base).entries = added := hentries
  have hclean : d.faults.isEmpty = true := by rw [hfaults]; rfl
  have hresolve :
      (d.program base).resolve = ⟨{ d.program base with entries := added }, [], none⟩ := by
    rw [resolve, hadded]
    exact resolveBehind_of_plain _ hplain []
  have hdraft : Draft.ofSource source = .ok d := hdraft
  refine ⟨{ d.program base with entries := added }, ?_, hlines, ?_, rfl, hplain⟩
  · simp only [assemble, ofSource, hdraft, hclean, if_true, bind, Except.bind, hresolve]
    rfl
  · simp [Draft.program, hlabels, Draft.empty]

end Program

end Chip8
