/-
# What a draft collects

A draft is built statement by statement. This module says what one statement adds to it, and from
that what a whole source has added: a draft without faults holds one entry for every statement that
carries an instruction or a block of data, and it marks every label with the number of entries in
front of it. No statement is read twice and none is passed over.
-/

import Mathlib.Data.List.Basic
import Chip8.Program.Statements

namespace Chip8

/-- A list is what stands in front of an element, the element, and what stands behind it. -/
theorem take_append_cons_drop {α : Type} {l : List α} {i : Nat} {a : α} (hget : l[i]? = some a) :
    l.take i ++ a :: l.drop (i + 1) = l := by
  obtain ⟨hi, rfl⟩ := List.getElem?_eq_some_iff.1 hget
  rw [← List.drop_eq_getElem_cons hi, List.take_append_drop]

namespace Statement

/-- The label that the statement defines, if it defines one. -/
def label? (s : Statement) : Option Label := (splitLabel? s.text).map Prod.fst

/-- What the statement carries beside its label: an instruction or a block of data. -/
def content? (s : Statement) : Option Text :=
  match splitLabel? s.text with
  | none => some s.text
  | some (_, rest) => if rest.isEmpty then none else some rest

/-- The entry that the statement adds to a program, if its content can be read. -/
def added? (s : Statement) : Option Entry :=
  match s.content?.map Line.read with
  | some (.ok (line, reference)) => some ⟨line, reference, s.line⟩
  | _ => none

/-- The fault of a statement whose content is rejected. -/
def rejection? (s : Statement) : Option LineFault :=
  match s.content? with
  | some text =>
    match Line.read text with
    | .error (.rejected reason) => some ⟨s.line, text, .rejected reason⟩
    | _ => none
  | none => none

/-- An entry that a statement adds is read from what the statement carries. -/
theorem exists_read_of_added? {s : Statement} {e : Entry} (hadded : s.added? = some e) :
    ∃ text, s.content? = some text ∧ Line.read text = .ok (e.line, e.reference) := by
  unfold added? at hadded
  split at hadded
  · rename_i line reference hread
    obtain ⟨text, hcontent, hread⟩ := Option.map_eq_some_iff.1 hread
    obtain rfl := Option.some.inj hadded
    exact ⟨text, hcontent, hread⟩
  · cases hadded

/-- What the statement carries can be read. -/
def Reads (s : Statement) : Prop :=
  ∀ text, s.content? = some text → ∃ line reference, Line.read text = .ok (line, reference)

/-- The labels that statements define, each with the number of entries in front of it, when `count`
entries stand in front of the statements. -/
def marksFrom (count : Nat) : List Statement → List (Label × Int)
  | [] => []
  | s :: rest =>
    s.label?.toList.map (fun label => (label, (count : Int))) ++
      marksFrom (count + s.added?.toList.length) rest

/-- The marks of statements that follow others start where the others end. -/
theorem marksFrom_append (count : Nat) (first second : List Statement) :
    marksFrom count (first ++ second) =
      marksFrom count first ++ marksFrom (count + (first.filterMap added?).length) second := by
  induction first generalizing count with
  | nil => simp [marksFrom]
  | cons s rest ih =>
    have hcount : count + s.added?.toList.length + (rest.filterMap added?).length =
        count + ((s :: rest).filterMap added?).length := by
      cases hentry : s.added? with
      | none => simp [hentry]
      | some e => simp [hentry]; omega
    rw [List.cons_append, marksFrom, ih, hcount, marksFrom, List.append_assoc]

theorem map_fst_marksFrom (count : Nat) (ss : List Statement) :
    (marksFrom count ss).map Prod.fst = ss.filterMap label? := by
  induction ss generalizing count with
  | nil => rfl
  | cons s rest ih =>
    rw [marksFrom, List.map_append, ih]
    cases hlabel : s.label? with
    | none => simp [hlabel]
    | some label => simp [hlabel]

/-- A label is marked with the number of entries of the statements in front of its definition. -/
theorem mem_marksFrom_zero {ss : List Statement} {k : Nat} {s : Statement} {label : Label}
    (hs : ss[k]? = some s) (hlabel : s.label? = some label) :
    (label, (((ss.take k).filterMap added?).length : Int)) ∈ marksFrom 0 ss := by
  have hmarks := marksFrom_append 0 (ss.take k) (s :: ss.drop (k + 1))
  rw [take_append_cons_drop hs, Nat.zero_add] at hmarks
  rw [hmarks, marksFrom, hlabel]
  simp

end Statement

namespace Draft

/-- The fault of a statement that defines a label again. -/
def redefinition? (d : Draft) (s : Statement) : Option LineFault :=
  match s.label? with
  | some label =>
    if d.labels.any (·.1 == label) then some ⟨s.line, s.text, .redefined label⟩ else none
  | none => none

/-- The mark that a statement sets, unless its label is there already. -/
def mark? (d : Draft) (s : Statement) : Option (Label × Int) :=
  match s.label? with
  | some label => if d.labels.any (·.1 == label) then none else some (label, d.entries.size)
  | none => none

/-- The label of a statement changes the marks and the faults of a draft. -/
def afterLabel (d : Draft) (s : Statement) : Draft :=
  match s.label? with
  | some label => d.defineLabel s label
  | none => d

theorem entries_afterLabel (d : Draft) (s : Statement) : (d.afterLabel s).entries = d.entries := by
  unfold afterLabel defineLabel
  split
  · split <;> rfl
  · rfl

theorem labels_afterLabel (d : Draft) (s : Statement) :
    (d.afterLabel s).labels.toList = d.labels.toList ++ (d.mark? s).toList := by
  unfold afterLabel defineLabel mark?
  split
  · split <;> simp
  · simp

theorem faults_afterLabel (d : Draft) (s : Statement) :
    (d.afterLabel s).faults.toList = d.faults.toList ++ (d.redefinition? s).toList := by
  unfold afterLabel defineLabel redefinition?
  split
  · split <;> simp
  · simp

/-- A statement is added label first, and its content is read on its own. -/
theorem addStatement_eq (d : Draft) (s : Statement) :
    d.addStatement s = match s.content? with
      | some text => (d.afterLabel s).addLine s.line text
      | none => .ok (d.afterLabel s) := by
  unfold addStatement afterLabel Statement.label? Statement.content?
  cases splitLabel? s.text with
  | none => rfl
  | some found =>
    obtain ⟨label, rest⟩ := found
    cases hrest : rest.isEmpty <;> simp [hrest]

/-- What a statement adds to a draft: an entry if its content is read, a mark if its label is new,
and the faults of its label and of its content, in this order. -/
theorem addStatement_cases {d after : Draft} {s : Statement} (hadd : d.addStatement s = .ok after) :
    after.entries.toList = d.entries.toList ++ s.added?.toList ∧
      after.labels.toList = d.labels.toList ++ (d.mark? s).toList ∧
      after.faults.toList =
        d.faults.toList ++ (d.redefinition? s).toList ++ s.rejection?.toList ∧
      (s.rejection? = none → s.Reads) := by
  rw [addStatement_eq] at hadd
  have hentries := d.entries_afterLabel s
  have hlabels := d.labels_afterLabel s
  have hfaults := d.faults_afterLabel s
  unfold Statement.added? Statement.rejection? Statement.Reads
  cases hcontent : s.content? with
  | none =>
    rw [hcontent] at hadd
    obtain rfl := Except.ok.inj hadd
    simp [hentries, hlabels, hfaults]
  | some text =>
    rw [hcontent] at hadd
    simp only [addLine] at hadd
    cases hread : Line.read text with
    | ok found =>
      obtain ⟨line, reference⟩ := found
      rw [hread] at hadd
      obtain rfl := Except.ok.inj hadd
      simp [hread, hentries, hlabels, hfaults]
    | error error =>
      rw [hread] at hadd
      cases error with
      | rejected reason =>
        obtain rfl := Except.ok.inj hadd
        simp [hread, hentries, hlabels, hfaults]
      | limit bound => cases hadd

/-- The draft holds the given statements, and none of them is faulty. -/
structure Holds (d : Draft) (ss : List Statement) : Prop where
  /-- one entry for each statement that carries something -/
  entries : d.entries.toList = ss.filterMap Statement.added?
  /-- every label with the number of entries in front of it -/
  labels : d.labels.toList = Statement.marksFrom 0 ss
  /-- no label is defined twice -/
  nodup : (ss.filterMap Statement.label?).Nodup
  /-- every content can be read -/
  reads : ∀ s ∈ ss, s.Reads

/-- One more statement that adds no fault keeps a draft faultless. -/
theorem Holds.snoc {d after : Draft} {ss : List Statement} {s : Statement}
    (hholds : d.Holds ss) (hadd : d.addStatement s = .ok after)
    (hclean : d.redefinition? s = none ∧ s.rejection? = none) : after.Holds (ss ++ [s]) := by
  obtain ⟨hentries, hlabels, -, hreads⟩ := addStatement_cases hadd
  have hsize : (d.entries.size : Int) = (ss.filterMap Statement.added?).length := by
    rw [← hholds.entries, Array.length_toList]
  have hdefined : ∀ label, d.labels.any (·.1 == label) = true ↔
      label ∈ ss.filterMap Statement.label? := by
    intro label
    rw [← Statement.map_fst_marksFrom 0 ss, ← hholds.labels, ← Array.any_toList]
    simp only [List.any_eq_true, beq_iff_eq, List.mem_map]
  have hfresh : ∀ label, s.label? = some label → label ∉ ss.filterMap Statement.label? := by
    intro label hlabel hmem
    have hany := (hdefined label).2 hmem
    simp [redefinition?, hlabel, hany] at hclean
  refine ⟨?_, ?_, ?_, ?_⟩
  · rw [hentries, hholds.entries, List.filterMap_append]
    cases hentry : s.added? <;> simp [hentry]
  · rw [hlabels, hholds.labels, Statement.marksFrom_append]
    cases hlabel : s.label? with
    | none => simp [mark?, Statement.marksFrom, hlabel]
    | some label =>
      have hnew : d.labels.any (·.1 == label) = false :=
        Bool.eq_false_iff.2 fun hany => hfresh label hlabel ((hdefined label).1 hany)
      simp only [mark?, hlabel, hnew, Statement.marksFrom, hsize]
      simp
  · rw [List.filterMap_append, List.nodup_append]
    cases hlabel : s.label? with
    | none => simpa [hlabel] using hholds.nodup
    | some label =>
      refine ⟨hholds.nodup, by simp [hlabel], ?_⟩
      intro first hfirst second hsecond
      simp only [List.filterMap_cons, hlabel, List.filterMap_nil, List.mem_singleton] at hsecond
      rintro rfl
      exact hfresh _ (hsecond ▸ hlabel) (by simpa using hfirst)
  · intro t ht
    rcases List.mem_append.1 ht with hold | hnew
    · exact hholds.reads t hold
    · rw [List.mem_singleton.1 hnew]
      exact hreads hclean.2

theorem foldlM_cons_eq_ok {d after : Draft} {s : Statement} {rest : List Statement} :
    (s :: rest).foldlM addStatement d = .ok after ↔
      ∃ middle, d.addStatement s = .ok middle ∧ rest.foldlM addStatement middle = .ok after := by
  rw [List.foldlM_cons]
  cases hadd : d.addStatement s with
  | error bound => simp [bind, Except.bind]
  | ok middle => simp [bind, Except.bind]

/-- Faults only accumulate. -/
theorem faults_eq_nil_of_foldlM {d after : Draft} {added : List Statement}
    (hadd : added.foldlM addStatement d = .ok after) (hclean : after.faults.toList = []) :
    d.faults.toList = [] := by
  induction added generalizing d with
  | nil =>
    obtain rfl := Except.ok.inj hadd
    exact hclean
  | cons s rest ih =>
    obtain ⟨middle, hfirst, hrest⟩ := foldlM_cons_eq_ok.1 hadd
    obtain ⟨-, -, hfaults, -⟩ := addStatement_cases hfirst
    rw [ih hrest, List.append_assoc] at hfaults
    exact (List.append_eq_nil_iff.1 hfaults.symm).1

/-- A draft that ends without faults had none on the way, so it holds every statement that was added
to it. -/
theorem Holds.append {d after : Draft} {held added : List Statement} (hholds : d.Holds held)
    (hadd : added.foldlM addStatement d = .ok after) (hclean : after.faults.toList = []) :
    after.Holds (held ++ added) := by
  -- The statements move from `added` to `held` one by one. That the drafts in between are faultless
  -- is known from the last one only, since faults accumulate.
  induction added generalizing d held with
  | nil =>
    obtain rfl := Except.ok.inj hadd
    simpa using hholds
  | cons s rest ih =>
    obtain ⟨middle, hfirst, hrest⟩ := foldlM_cons_eq_ok.1 hadd
    obtain ⟨-, -, hfaults, -⟩ := addStatement_cases hfirst
    rw [faults_eq_nil_of_foldlM hrest hclean] at hfaults
    obtain ⟨hbefore, hrejection⟩ := List.append_eq_nil_iff.1 hfaults.symm
    have hredefinition := (List.append_eq_nil_iff.1 hbefore).2
    have hmiddle := hholds.snoc hfirst
      ⟨Option.toList_eq_nil_iff.1 hredefinition, Option.toList_eq_nil_iff.1 hrejection⟩
    simpa using ih hmiddle hrest

/-- The draft of a source, if it has no faults, holds the statements of the source. -/
theorem holds_of_ofSource {source : Text} {d : Draft} (hdraft : ofSource source = .ok d)
    (hclean : d.faults.isEmpty = true) : d.Holds (Source.statements source) := by
  have hempty : empty.Holds [] :=
    { entries := rfl, labels := rfl, nodup := List.nodup_nil, reads := by simp }
  have hfaults : d.faults.toList = [] := by simpa using hclean
  simpa using hempty.append hdraft hfaults

end Draft

end Chip8
