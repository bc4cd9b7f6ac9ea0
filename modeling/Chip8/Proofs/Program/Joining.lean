/-
# Statements that are joined

Printed statements make a source when they are joined by line feeds and semicolons, in any number
and mixture. No comment and no line end stands in a printed statement, so the source is cut at these
separators and nowhere else, and its statements are the ones that were joined.
-/

import Chip8.Proofs.Program.Surface

namespace Chip8

namespace Source

variable {t : Text}

/-- Line feeds and semicolons, at least one. -/
def Separates (separator : Text) : Prop := separator ≠ [] ∧ ∀ c ∈ separator, c = '\n' ∨ c = ';'

/-- The source consists of the texts with separators between neighbours, which may be different
ones. -/
inductive Joined : List Text → Text → Prop
  | empty : Joined [] []
  | single (t : Text) : Joined [t] t
  | cons (t : Text) {separator next rest : Text} {others : List Text}
      (separates : Separates separator) (joined : Joined (next :: others) rest) :
      Joined (t :: next :: others) (t ++ separator ++ rest)

/-- Texts that are joined by one separator are joined. -/
theorem joined_join {separator : Text} (hseparates : Separates separator) (ts : List Text) :
    Joined ts (Text.join separator ts) := by
  induction ts with
  | nil => exact .empty
  | cons t ts ih =>
    cases ts with
    | nil => simpa [Text.join] using Joined.single t
    | cons next others =>
      rw [Text.join_cons_cons]
      exact .cons t hseparates ih

theorem dropComments_append_of_uncommented (ht : ∀ c ∈ t, c ≠ '#') (rest : Text) :
    dropComments false (t ++ rest) = t ++ dropComments false rest := by
  induction t with
  | nil => rfl
  | cons c t ih =>
    obtain ⟨hc, ht⟩ := List.forall_mem_cons.1 ht
    rw [List.cons_append, dropComments, ih ht]
    simp [hc]

/-- Where no comment has been entered, a mark divides what is written. -/
theorem written_append_mark (ht : ∀ c ∈ t, c ≠ '#') {c : Char} (hmark : endsStatement c = true)
    (rest : Text) : written (t ++ c :: rest) = written t ++ written rest := by
  have hclosed : ∀ d ∈ t ++ [c], d ≠ '#' := by
    intro d hd
    rcases List.mem_append.1 hd with hin | hlast
    · exact ht d hin
    · rw [List.mem_singleton.1 hlast]
      rintro rfl
      exact absurd hmark (by decide)
  have hbehind := dropComments_append_of_uncommented hclosed rest
  have hfront := dropComments_append_of_uncommented ht []
  rw [List.append_assoc, List.append_assoc, List.singleton_append, List.singleton_append] at hbehind
  rw [List.append_nil, dropComments, List.append_nil] at hfront
  rw [written, hbehind, Text.cut_append_mark hmark, List.map_append, List.filter_append, written,
    written, hfront]

theorem written_of_isStatement (ht : t.IsStatement) : written t = [t] := by
  have huncommented : ∀ c ∈ t, c ≠ '#' := ht.ne_of_not_plain (by decide) (by decide)
  have hplain := dropComments_append_of_uncommented huncommented []
  have hunmarked : ∀ c ∈ t, endsStatement c = false := by
    intro c hc
    have hsemicolon : c ≠ ';' := ht.ne_of_not_plain (by decide) (by decide) c hc
    rw [endsStatement, ht.not_isLineEnd c hc, Bool.or_false, beq_eq_false_iff_ne]
    exact hsemicolon
  rw [List.append_nil, dropComments, List.append_nil] at hplain
  rw [written, hplain, Text.cut_eq_singleton _ _ hunmarked, List.map_singleton, ht.trim_eq,
    List.filter_cons_of_pos (by simp [ht.ne_nil])]
  rfl

/-- A separator ends the statement in front of it. -/
theorem written_append_separator (ht : t.IsStatement) {separator : Text}
    (hseparates : Separates separator) (rest : Text) :
    written (t ++ separator ++ rest) = t :: written rest := by
  obtain ⟨hne, hmarks⟩ := hseparates
  have hends : ∀ c ∈ separator, endsStatement c = true := by
    intro c hc
    rcases hmarks c hc with rfl | rfl <;> decide
  have hskip : ∀ marks : Text, (∀ c ∈ marks, endsStatement c = true) →
      written (marks ++ rest) = written rest := by
    intro marks hmarks
    induction marks with
    | nil => rfl
    | cons c marks ih =>
      obtain ⟨hc, hothers⟩ := List.forall_mem_cons.1 hmarks
      exact (written_append_mark (t := []) (by simp) hc (marks ++ rest)).trans (ih hothers)
  obtain ⟨c, marks, rfl⟩ := List.exists_cons_of_ne_nil hne
  obtain ⟨hc, hothers⟩ := List.forall_mem_cons.1 hends
  rw [List.append_assoc, List.cons_append,
    written_append_mark (ht.ne_of_not_plain (by decide) (by decide)) hc, written_of_isStatement ht,
    hskip marks hothers]
  rfl

/-- The statements of joined statements are these. -/
theorem map_text_statements_of_joined {ts : List Text} {source : Text}
    (hstatements : ∀ t ∈ ts, t.IsStatement) (hjoined : Joined ts source) :
    (statements source).map Statement.text = ts := by
  rw [← written_eq]
  induction hjoined with
  | empty => rfl
  | single t => exact written_of_isStatement (hstatements t List.mem_cons_self)
  | cons t hseparates _ ih =>
    obtain ⟨ht, hothers⟩ := List.forall_mem_cons.1 hstatements
    rw [written_append_separator ht hseparates, ih hothers]

end Source

end Chip8
