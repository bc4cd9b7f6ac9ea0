/-
# The faults of a source

A source that does not become a program is reported with all its faults. This module says which they
are without the draft that collects them: every statement that defines a label which a statement in
front of it has defined, and every statement whose content is rejected when it is read alone. A
source without faults becomes a program with one entry for each statement that carries something.
Only a numeral beyond the bound on decimal digits ends the collection early. The statements
themselves are what is written on the lines of the source, line by line.
-/

import Chip8.Assembler
import Chip8.Proofs.Instruction.Grammar
import Chip8.Proofs.Program.Layout
import Chip8.Proofs.Program.Surface

namespace Chip8

namespace Line

/-- Only a numeral that meets the bound on decimal digits stops the reader of statements. -/
theorem exists_meetsLimit_of_read {text : Text} {bound : DigitLimit}
    (hread : read text = .error (.limit bound)) :
    ∃ w ∈ Instruction.foldedWords text, Operand.MeetsLimit w := by
  unfold read at hread
  dsimp only at hread
  split at hread
  · split at hread <;> cases hread
  · split at hread
    · cases hread
    · cases hinstruction : Instruction.read text with
      | ok i => simp [hinstruction, Except.map] at hread
      | error cause =>
        obtain rfl : cause = .limit bound := by simpa [hinstruction, Except.map] using hread
        exact Instruction.exists_meetsLimit_of_read hinstruction

end Line

theorem isLabelStart_toLower (c : Char) : isLabelStart c.toLower = isLabelStart c :=
  Text.apply_toLower (by decide) c

theorem isLabelChar_toLower (c : Char) : isLabelChar c.toLower = isLabelChar c :=
  Text.apply_toLower (by decide) c

/-- Case makes no difference to what is the name of a label. -/
theorem isLabelName_map_toLower (name : Text) :
    isLabelName (name.map Char.toLower) = isLabelName name := by
  cases name with
  | nil => rfl
  | cons c rest =>
    have hrest : isLabelChar ∘ Char.toLower = isLabelChar := funext isLabelChar_toLower
    rw [List.map_cons, isLabelName, isLabelName, isLabelStart_toLower, List.all_map, hrest]

namespace Statement

variable {s : Statement} {ss earlier : List Statement} {label : Label}

/-- The statement starts with the name of a label and a colon. Labels have no case. -/
def Defines (s : Statement) (label : Label) : Prop :=
  ∃ name rest, s.text = name ++ ':' :: rest ∧ isLabelName name = true ∧
    label = name.map Char.toLower

theorem isLabelChar_of_mem {name : Text} {c : Char} (hname : isLabelName name = true)
    (hc : c ∈ name) : isLabelChar c = true := by
  cases name with
  | nil => cases hc
  | cons first rest =>
    simp only [isLabelName, Bool.and_eq_true, List.all_eq_true] at hname
    rcases List.mem_cons.1 hc with rfl | hrest
    · rw [isLabelChar, hname.1, Bool.true_or]
    · exact hname.2 c hrest

theorem ne_colon_of_isLabelName {name : Text} (hname : isLabelName name = true) :
    ∀ c ∈ name, (c != ':') = true := by
  intro c hc
  refine bne_iff_ne.2 ?_
  rintro rfl
  exact absurd (isLabelChar_of_mem hname hc) (by decide)

/-- A label is split off where a colon stands behind its name. -/
theorem splitLabel?_eq_some_iff {t rest : Text} : splitLabel? t = some (label, rest) ↔
    ∃ name tail, t = name ++ ':' :: tail ∧ isLabelName name = true ∧
      label = name.map Char.toLower ∧ rest = Text.trim tail := by
  unfold splitLabel?
  constructor
  · intro hsplit
    split at hsplit
    · rename_i tail hdrop
      dsimp only at hsplit
      split at hsplit
      · rename_i hname
        obtain ⟨hlabel, hrest⟩ := Prod.mk.inj (Option.some.inj hsplit)
        refine ⟨_, tail, ?_, hname, hlabel.symm, hrest.symm⟩
        rw [← hdrop, List.takeWhile_append_dropWhile]
      · cases hsplit
    · cases hsplit
  · rintro ⟨name, tail, rfl, hname, rfl, rfl⟩
    have hcolon := ne_colon_of_isLabelName hname
    rw [List.takeWhile_append_of_pos hcolon, List.dropWhile_append_of_pos hcolon]
    simp [hname]

theorem label?_eq_some_iff : s.label? = some label ↔ s.Defines label := by
  unfold label? Defines
  rw [Option.map_eq_some_iff]
  constructor
  · rintro ⟨⟨found, rest⟩, hsplit, rfl⟩
    obtain ⟨name, tail, htext, hname, hlabel, -⟩ := splitLabel?_eq_some_iff.1 hsplit
    exact ⟨name, tail, htext, hname, hlabel⟩
  · rintro ⟨name, tail, htext, hname, hlabel⟩
    exact ⟨_, splitLabel?_eq_some_iff.2 ⟨name, tail, htext, hname, hlabel, rfl⟩, rfl⟩

/-- The statement defines a label that a statement in front of it has defined. -/
def Redefines (s : Statement) (earlier : List Statement) : Prop :=
  ∃ label, s.Defines label ∧ ∃ t ∈ earlier, t.Defines label

/-- What the statement carries is rejected. -/
def IsRejected (s : Statement) : Prop :=
  ∃ text reason, s.content? = some text ∧ Line.read text = .error (.rejected reason)

/-- What the statement carries has no numeral that meets the bound on decimal digits. -/
def WithinLimit (s : Statement) : Prop :=
  ∀ text, s.content? = some text →
    ∀ w ∈ Instruction.foldedWords text, ¬ Operand.MeetsLimit w

/-- The reader stops at what the statement carries, since it meets the bound. -/
def MeetsLimit (s : Statement) : Prop :=
  ∃ text bound, s.content? = some text ∧ Line.read text = .error (.limit bound)

theorem WithinLimit.not_meetsLimit (hlimit : s.WithinLimit) : ¬ s.MeetsLimit := by
  rintro ⟨text, bound, hcontent, hread⟩
  obtain ⟨w, hw, hmeets⟩ := Line.exists_meetsLimit_of_read hread
  exact hlimit text hcontent w hw hmeets

/-- The fault of a statement that defines a label again. -/
def redefinition? (earlier : List Statement) (s : Statement) : Option LineFault :=
  match s.label? with
  | some label =>
    if label ∈ earlier.filterMap label? then some ⟨s.line, s.text, .redefined label⟩ else none
  | none => none

/-- The faults of a statement, that of its label first. -/
def faults (earlier : List Statement) (s : Statement) : List LineFault :=
  (s.redefinition? earlier).toList ++ s.rejection?.toList

/-- The faults of statements, in order. -/
def allFaults (ss : List Statement) : List LineFault :=
  ss.zipIdx.flatMap fun entry => entry.1.faults (ss.take entry.2)

theorem redefinition?_eq_none_iff : s.redefinition? earlier = none ↔ ¬ s.Redefines earlier := by
  unfold redefinition? Redefines
  simp only [← label?_eq_some_iff]
  cases s.label? with
  | none => simp
  | some label => simp [eq_comm]

theorem rejection?_eq_none_iff : s.rejection? = none ↔ ¬ s.IsRejected := by
  unfold rejection? IsRejected
  cases s.content? with
  | none => simp
  | some text =>
    cases hread : Line.read text with
    | ok found => simp [hread]
    | error cause => cases cause <;> simp [hread]

theorem faults_eq_nil_iff : s.faults earlier = [] ↔ ¬ (s.Redefines earlier ∨ s.IsRejected) := by
  rw [faults, List.append_eq_nil_iff, Option.toList_eq_nil_iff, Option.toList_eq_nil_iff,
    redefinition?_eq_none_iff, rejection?_eq_none_iff, not_or]

theorem allFaults_eq_nil_iff : allFaults ss = [] ↔
    ∀ (k : Nat) (s : Statement), ss[k]? = some s →
      ¬ (s.Redefines (ss.take k) ∨ s.IsRejected) := by
  rw [allFaults, List.flatMap_eq_nil_iff]
  constructor
  · intro hnil k s hs
    exact faults_eq_nil_iff.1 (hnil (s, k) (List.mk_mem_zipIdx_iff_getElem?.2 hs))
  · rintro hclean ⟨s, k⟩ hmem
    exact faults_eq_nil_iff.2 (hclean k s (List.mk_mem_zipIdx_iff_getElem?.1 hmem))

/-- A statement behind others brings its own faults and leaves theirs. -/
theorem allFaults_snoc (ss : List Statement) (s : Statement) :
    allFaults (ss ++ [s]) = allFaults ss ++ s.faults ss := by
  unfold allFaults
  rw [List.zipIdx_append, List.flatMap_append]
  congr 1
  · refine List.flatMap_congr fun entry hentry => ?_
    have hlt := List.snd_lt_of_mem_zipIdx hentry
    rw [List.take_append_of_le_length (Nat.le_of_lt hlt)]
  · simp

end Statement

namespace Draft

/-- The draft has met these statements: it knows their labels and has collected their faults. -/
structure Collects (d : Draft) (ss : List Statement) : Prop where
  defined : ∀ label, d.labels.any (·.1 == label) = true ↔ label ∈ ss.filterMap Statement.label?
  faults : d.faults.toList = Statement.allFaults ss

variable {d after : Draft} {s : Statement} {ss : List Statement}

theorem Collects.redefinition? (hcollects : d.Collects ss) (s : Statement) :
    d.redefinition? s = s.redefinition? ss := by
  unfold Draft.redefinition? Statement.redefinition?
  cases s.label? with
  | none => rfl
  | some label => simp only [hcollects.defined]

/-- A statement marks the label that it defines, unless the label is there already. -/
theorem any_mark? (d : Draft) (s : Statement) (label : Label) :
    (d.mark? s).toList.any (·.1 == label) = true ↔
      s.label? = some label ∧ ¬ d.labels.any (·.1 == label) = true := by
  unfold mark?
  cases s.label? with
  | none => simp
  | some name =>
    by_cases hname : name = label
    · subst hname
      dsimp only
      generalize d.labels.any (·.1 == name) = known
      cases known <;> simp
    · dsimp only
      cases d.labels.any (·.1 == name) <;> simp [hname]

/-- One more statement is met. -/
theorem Collects.snoc (hcollects : d.Collects ss) (hadd : d.addStatement s = .ok after) :
    after.Collects (ss ++ [s]) := by
  obtain ⟨-, hlabels, hfaults, -⟩ := addStatement_cases hadd
  refine ⟨fun label => ?_, ?_⟩
  · have hold := hcollects.defined label
    have hnew := d.any_mark? s label
    have hsnoc : label ∈ (ss ++ [s]).filterMap Statement.label? ↔
        label ∈ ss.filterMap Statement.label? ∨ s.label? = some label := by
      simp only [List.mem_filterMap, List.mem_append, List.mem_singleton, or_and_right, exists_or,
        exists_eq_left]
    rw [← Array.any_toList, hlabels, List.any_append, Bool.or_eq_true, Array.any_toList, hnew,
      hsnoc, hold]
    tauto
  · rw [hfaults, hcollects.faults, hcollects.redefinition?, Statement.allFaults_snoc,
      Statement.faults, List.append_assoc]

/-- What is added to a draft that has met statements is met behind them. -/
theorem Collects.append {held added : List Statement} (hcollects : d.Collects held)
    (hadd : added.foldlM addStatement d = .ok after) : after.Collects (held ++ added) := by
  induction added generalizing d held with
  | nil =>
    obtain rfl := Except.ok.inj hadd
    simpa using hcollects
  | cons s rest ih =>
    obtain ⟨middle, hfirst, hrest⟩ := foldlM_cons_eq_ok.1 hadd
    simpa using ih (hcollects.snoc hfirst) hrest

theorem collects_of_ofSource {source : Text} (hdraft : ofSource source = .ok d) :
    d.Collects (Source.statements source) := by
  have hempty : empty.Collects [] := ⟨fun label => by simp [empty], rfl⟩
  simpa using hempty.append hdraft

/-- A statement is added unless it meets the bound on decimal digits. -/
theorem exists_addStatement_eq_error_iff :
    (∃ bound, d.addStatement s = .error bound) ↔ s.MeetsLimit := by
  unfold Statement.MeetsLimit
  rw [addStatement_eq]
  cases s.content? with
  | none => simp
  | some text =>
    simp only [addLine]
    cases hread : Line.read text with
    | ok found => simp [hread]
    | error cause => cases cause <;> simp [hread]

theorem exists_foldlM_eq_error_iff {added : List Statement} :
    (∃ bound, added.foldlM addStatement d = .error bound) ↔ ∃ s ∈ added, s.MeetsLimit := by
  induction added generalizing d with
  | nil => simp [pure, Except.pure]
  | cons s rest ih =>
    have hfirst := exists_addStatement_eq_error_iff (d := d) (s := s)
    rw [List.foldlM_cons, List.exists_mem_cons_iff, ← hfirst]
    cases hadd : d.addStatement s with
    | error bound => simp [bind, Except.bind]
    | ok middle => simpa [bind, Except.bind] using ih

/-- A source has a draft unless one of its statements meets the bound on decimal digits. -/
theorem exists_ofSource_eq_error_iff {source : Text} : (∃ bound, ofSource source = .error bound) ↔
    ∃ s ∈ Source.statements source, s.MeetsLimit :=
  exists_foldlM_eq_error_iff

theorem exists_draft {source : Text}
    (hlimit : ∀ s ∈ Source.statements source, s.WithinLimit) : ∃ d, ofSource source = .ok d := by
  cases hdraft : ofSource source with
  | ok d => exact ⟨d, rfl⟩
  | error bound =>
    obtain ⟨s, hs, hmeets⟩ := exists_ofSource_eq_error_iff.1 ⟨bound, hdraft⟩
    exact absurd hmeets (hlimit s hs).not_meetsLimit

end Draft

/-! ## The program of a source without faults -/

namespace Statement

/-- The statement carries an instruction or a block of data. -/
def carries (s : Statement) : Bool := s.content?.isSome

/-- The entry is what the statement carries, read alone, with the line of the statement. -/
def ReadAs (s : Statement) (e : Entry) : Prop :=
  ∃ text, s.content? = some text ∧ Line.read text = .ok (e.line, e.reference) ∧
    e.sourceLine = s.line

/-- Statements that can be read add one entry each, unless they only define a label. -/
theorem forall₂_readAs {ss : List Statement} (hreads : ∀ s ∈ ss, s.Reads) :
    List.Forall₂ ReadAs (ss.filter carries) (ss.filterMap added?) := by
  induction ss with
  | nil => exact .nil
  | cons s rest ih =>
    have hrest := ih fun t ht => hreads t (List.mem_cons_of_mem s ht)
    cases hcontent : s.content? with
    | none =>
      have hcarries : ¬ s.carries = true := by simp [carries, hcontent]
      have hadded : s.added? = none := by simp [added?, hcontent]
      rwa [List.filter_cons_of_neg hcarries, List.filterMap_cons_none hadded]
    | some text =>
      obtain ⟨line, reference, hread⟩ := hreads s List.mem_cons_self text hcontent
      have hcarries : s.carries = true := by simp [carries, hcontent]
      have hadded : s.added? = some ⟨line, reference, s.line⟩ := by simp [added?, hcontent, hread]
      rw [List.filter_cons_of_pos hcarries, List.filterMap_cons_some hadded]
      exact .cons ⟨text, hcontent, hread, rfl⟩ hrest

end Statement

namespace Source

/-- A statement stands on the line that it is charged to. -/
theorem exists_line_of_mem_statements {source : Text} {s : Statement}
    (hs : s ∈ statements source) : ∃ line, 0 < s.line ∧
      (Text.lines source)[s.line - 1]? = some line ∧ s.text ∈ lineStatements line := by
  obtain ⟨⟨line, index⟩, hline, hmem⟩ := List.mem_flatMap.1 hs
  obtain ⟨text, htext, rfl⟩ := List.mem_map.1 hmem
  exact ⟨line, Nat.succ_pos index, List.mk_mem_zipIdx_iff_getElem?.1 hline, htext⟩

/-- The statements of lines that are numbered from `first + 1` on. -/
def statementsFrom (first : Nat) (ls : List Text) : List Statement :=
  (ls.zipIdx first).flatMap fun (line, index) =>
    (lineStatements line).map fun text => { line := index + 1, text }

theorem statementsFrom_cons (first : Nat) (line : Text) (rest : List Text) :
    statementsFrom first (line :: rest) =
      (lineStatements line).map (fun text => { line := first + 1, text }) ++
        statementsFrom (first + 1) rest := rfl

theorem lt_line_of_mem_statementsFrom {first : Nat} {ls : List Text} {s : Statement}
    (hs : s ∈ statementsFrom first ls) : first < s.line := by
  obtain ⟨⟨line, index⟩, hline, hmem⟩ := List.mem_flatMap.1 hs
  obtain ⟨text, -, rfl⟩ := List.mem_map.1 hmem
  exact Nat.lt_succ_of_le (List.le_snd_of_mem_zipIdx hline)

theorem pairwise_line_statementsFrom (first : Nat) (ls : List Text) :
    (statementsFrom first ls).Pairwise fun s t => s.line ≤ t.line := by
  induction ls generalizing first with
  | nil => exact .nil
  | cons line rest ih =>
    rw [statementsFrom_cons, List.pairwise_append]
    refine ⟨List.pairwise_map.2 (List.pairwise_of_forall fun _ _ => Nat.le_refl _),
      ih (first + 1), ?_⟩
    intro s hs t ht
    obtain ⟨text, -, rfl⟩ := List.mem_map.1 hs
    exact Nat.le_of_lt (lt_line_of_mem_statementsFrom ht)

/-- Statements come in the order of their lines. -/
theorem pairwise_line_statements (source : Text) :
    (statements source).Pairwise fun s t => s.line ≤ t.line :=
  pairwise_line_statementsFrom 0 (Text.lines source)

theorem map_text_filter_statementsFrom (first : Nat) {k : Nat} {ls : List Text} {line : Text}
    (hline : ls[k]? = some line) :
    ((statementsFrom first ls).filter (·.line = first + k + 1)).map Statement.text =
      lineStatements line := by
  induction ls generalizing first k with
  | nil => cases hline
  | cons head rest ih =>
    rw [statementsFrom_cons, List.filter_append, List.map_append]
    cases k with
    | zero =>
      obtain rfl : head = line := Option.some.inj hline
      have hothers : (statementsFrom (first + 1) rest).filter (·.line = first + 0 + 1) = [] := by
        refine List.filter_eq_nil_iff.2 fun s hs => ?_
        have hlater := lt_line_of_mem_statementsFrom hs
        simp only [decide_eq_true_eq]
        omega
      rw [hothers, List.filter_eq_self.2 (by simp), List.map_map]
      simp [Function.comp_def]
    | succ k =>
      have hrest : rest[k]? = some line := hline
      have hhead : ((lineStatements head).map fun text =>
          ({ line := first + 1, text } : Statement)).filter (·.line = first + (k + 1) + 1) = [] :=
        List.filter_eq_nil_iff.2 (by simp)
      have hnumber : first + (k + 1) + 1 = first + 1 + k + 1 := by omega
      rw [hhead, hnumber, ih (first + 1) hrest]
      rfl

/-- The statements of a line are all there, in order. -/
theorem map_text_filter_statements {source line : Text} {k : Nat}
    (hline : (Text.lines source)[k]? = some line) :
    ((statements source).filter (·.line = k + 1)).map Statement.text = lineStatements line := by
  have hall := map_text_filter_statementsFrom 0 hline
  rwa [Nat.zero_add] at hall

end Source

namespace Program

/-- The program holds what the statements carry, and marks the places of their labels. -/
structure Transcribes (p : Program) (base : Int) (ss : List Statement) : Prop where
  base : p.base = base
  /-- one entry for each statement that carries something, in order -/
  entries : List.Forall₂ Statement.ReadAs (ss.filter Statement.carries) p.entries
  /-- the labels are those of the statements -/
  names : p.labels.map Prod.fst = ss.filterMap Statement.label?
  /-- a label marks the number of entries in front of its definition -/
  labels : ∀ (k : Nat) (s : Statement) (label : Label), ss[k]? = some s → s.Defines label →
    p.labels.lookup label = some ((ss.take k).countP Statement.carries : Int)

theorem transcribes_of_holds {d : Draft} {ss : List Statement} (hholds : d.Holds ss) (base : Int) :
    (d.program base).Transcribes base ss where
  base := rfl
  entries := by
    show List.Forall₂ _ _ d.entries.toList
    rw [hholds.entries]
    exact Statement.forall₂_readAs hholds.reads
  names := by
    show d.labels.toList.map Prod.fst = _
    rw [hholds.labels, Statement.map_fst_marksFrom]
  labels k s label hs hdefines := by
    have hreads : ∀ t ∈ ss.take k, t.Reads := fun t ht => hholds.reads t (List.mem_of_mem_take ht)
    have hbefore := Statement.forall₂_readAs hreads
    show d.labels.toList.lookup label = _
    rw [hholds.lookup_labels hs (Statement.label?_eq_some_iff.2 hdefines), ← hbefore.length_eq,
      List.countP_eq_length_filter]

/-- What becomes of a source. -/
structure ReadsOrReports (base : Int) (source : Text) : Prop where
  /-- a source is refused if a statement defines a label again or is rejected -/
  refused_iff : (∃ cause, ofSource base source = .error cause) ↔
    ∃ (k : Nat) (s : Statement), (Source.statements source)[k]? = some s ∧
      (s.Redefines ((Source.statements source).take k) ∨ s.IsRejected)
  /-- and then with the faults of all its statements -/
  reports : ∀ cause, ofSource base source = .error cause →
    cause = .faulty (Statement.allFaults (Source.statements source))
  /-- statements stand on the lines of the source that they are charged to -/
  numbered : ∀ s ∈ Source.statements source, ∃ line, 0 < s.line ∧
    (Text.lines source)[s.line - 1]? = some line ∧ s.text ∈ Source.lineStatements line
  /-- they are what is written between the semicolons and line ends, in this order -/
  written : (Source.statements source).map Statement.text = Source.written source
  /-- they come line by line -/
  ordered : (Source.statements source).Pairwise fun first second => first.line ≤ second.line
  /-- and those of each line are all there -/
  complete : ∀ (k : Nat) (line : Text), (Text.lines source)[k]? = some line →
    ((Source.statements source).filter (·.line = k + 1)).map Statement.text =
      Source.lineStatements line
  /-- any other source becomes the program of its statements -/
  reads : ∀ p, ofSource base source = .ok p → p.Transcribes base (Source.statements source)

/-- All faults of a source are reported together, and only they are; a source without faults becomes
a program. -/
theorem ofSource_reads_or_reports (base : Int) (source : Text)
    (hlimit : ∀ s ∈ Source.statements source, s.WithinLimit) : ReadsOrReports base source := by
  obtain ⟨d, hdraft⟩ := Draft.exists_draft hlimit
  have hfaults := (Draft.collects_of_ofSource hdraft).faults
  have hclean : d.faults.isEmpty = true ↔ Statement.allFaults (Source.statements source) = [] := by
    rw [← hfaults]
    simp
  have hof : ofSource base source = if d.faults.isEmpty then .ok (d.program base)
      else .error (.faulty d.faults.toList) := by
    rw [ofSource, hdraft]
  exact
    { refused_iff := by
        have hrefused : (∃ cause, ofSource base source = .error cause) ↔
            ¬ Statement.allFaults (Source.statements source) = [] := by
          rw [hof, ← hclean]
          split <;> simp_all
        rw [hrefused, Statement.allFaults_eq_nil_iff]
        push Not
        rfl
      reports := by
        intro cause herror
        rw [hof] at herror
        split at herror
        · cases herror
        · rw [← Except.error.inj herror, hfaults]
      numbered := fun _ hs => Source.exists_line_of_mem_statements hs
      written := (Source.written_eq source).symm
      ordered := Source.pairwise_line_statements source
      complete := fun _ _ hline => Source.map_text_filter_statements hline
      reads := by
        intro p hp
        rw [hof] at hp
        split at hp
        · rename_i hempty
          obtain rfl := Except.ok.inj hp
          exact transcribes_of_holds (Draft.holds_of_ofSource hdraft hempty) base
        · cases hp }

/-- A source with a label that is defined again on a line that is rejected as well. -/
def faultySource : Text := "loop: ld v0 1\nLOOP: ld v0; jp loop # back\nbytes".toList

theorem ofSource_reads_or_reports_faulty :
    (∀ s ∈ Source.statements faultySource, s.WithinLimit) ∧ ReadsOrReports 0x200 faultySource ∧
      ofSource 0x200 faultySource = .error (.faulty
        [⟨2, "LOOP: ld v0".toList, .redefined "loop".toList⟩,
          ⟨2, "ld v0".toList, .rejected (.missingOperand 2)⟩,
          ⟨3, "bytes".toList, .rejected .noBytes⟩]) := by
  have hshort : ∀ s ∈ Source.statements faultySource, ∀ text ∈ s.content?,
      ∀ w ∈ Instruction.foldedWords text, 2 * w.length ≤ Text.maxDecimalDigits := by
    decide +kernel
  have hlimit : ∀ s ∈ Source.statements faultySource, s.WithinLimit :=
    fun s hs text hcontent w hw => Operand.not_meetsLimit_of_short (hshort s hs text hcontent w hw)
  have hwhole := ofSource_reads_or_reports 0x200 faultySource hlimit
  have hfaults : Statement.allFaults (Source.statements faultySource) =
      [⟨2, "LOOP: ld v0".toList, .redefined "loop".toList⟩,
        ⟨2, "ld v0".toList, .rejected (.missingOperand 2)⟩,
        ⟨3, "bytes".toList, .rejected .noBytes⟩] := by
    decide +kernel
  -- The second statement redefines the label of the first, so the source is refused.
  have hfirst : ⟨1, "loop: ld v0 1".toList⟩ ∈ (Source.statements faultySource).take 1 := by
    decide +kernel
  have hredefines : Statement.Redefines ⟨2, "LOOP: ld v0".toList⟩
      ((Source.statements faultySource).take 1) :=
    ⟨"loop".toList, Statement.label?_eq_some_iff.1 (by decide +kernel), _, hfirst,
      Statement.label?_eq_some_iff.1 (by decide +kernel)⟩
  obtain ⟨cause, hcause⟩ := hwhole.refused_iff.2 ⟨1, _, by decide +kernel, .inl hredefines⟩
  rw [hwhole.reports cause hcause, hfaults] at hcause
  exact ⟨hlimit, hwhole, hcause⟩

end Program

end Chip8
