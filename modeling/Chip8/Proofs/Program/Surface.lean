/-
# The surface of a source

A source may be written in many ways that mean the same: with comments, with statements on lines of
their own or behind semicolons, with blanks of any kind and number, in upper or lower case. This
module strips a source of all that, without cutting it into lines first, and finds the statements
that the assembler works on.
-/

import Chip8.Proofs.Program.Plain
import Chip8.Proofs.Text.Spacing

namespace Chip8

namespace Text

/-- The line ends of a text cut it into its lines, up to empty ones: a carriage return and a line
feed end one line and not two, and no line follows the last line end. -/
theorem filter_lines (t : Text) :
    (lines t).filter (!·.isEmpty) = (cut isLineEnd t).filter (!·.isEmpty) := by
  have hsplit : ∀ ls : List Text, ls.filter (!·.isEmpty) =
      [ls.headD []].filter (!·.isEmpty) ++ ls.tail.filter (!·.isEmpty) := by
    intro ls
    cases ls with
    | nil => rfl
    | cons line others => exact List.filter_append [line] others
  -- A plain character joins the first line, empty or not, so that one is compared by itself.
  have hparts : (lines t).headD [] = (cut isLineEnd t).headD [] ∧
      (lines t).tail.filter (!·.isEmpty) = (cut isLineEnd t).tail.filter (!·.isEmpty) := by
    induction t using lines.induct with
    | case1 => exact ⟨rfl, rfl⟩
    | case2 rest ih =>
      have hcut : cut isLineEnd ('\r' :: '\n' :: rest) = [] :: [] :: cut isLineEnd rest := rfl
      rw [hcut, lines, List.tail_cons, List.tail_cons, List.filter_cons_of_neg (by simp), hsplit,
        hsplit (cut isLineEnd rest), ih.1, ih.2]
      exact ⟨rfl, rfl⟩
    | case3 c rest hsingle hend ih =>
      have hlines : lines (c :: rest) = [] :: lines rest := by
        rw [lines, if_pos hend]
        exact hsingle
      rw [hlines, cut, if_pos hend, List.tail_cons, List.tail_cons, hsplit,
        hsplit (cut isLineEnd rest), ih.1, ih.2]
      exact ⟨rfl, rfl⟩
    | case4 c rest hsingle hend _ ih | case5 c rest hsingle hend _ _ _ ih =>
      have hinline : isLineEnd c = false := Bool.eq_false_iff.2 hend
      rw [lines_cons_of_not_isLineEnd hinline, cut_cons_of_unmarked hinline, ih.1]
      exact ⟨rfl, ih.2⟩
  rw [hsplit, hsplit (cut isLineEnd t), hparts.1, hparts.2]

end Text

namespace Source

/-- The text without its comments. A comment that has been entered goes on up to the end of its
line, which stays. -/
def dropComments : Bool → Text → Text
  | _, [] => []
  | entered, c :: rest =>
    if Text.isLineEnd c then c :: dropComments false rest
    else if entered || c == '#' then dropComments true rest
    else c :: dropComments false rest

/-- Semicolons and line ends stand between statements. -/
def endsStatement (c : Char) : Bool := c == ';' || Text.isLineEnd c

/-- What is written in a source, its comments dropped: what stands between semicolons and line ends,
trimmed, as long as something is left. -/
def written (source : Text) : List Text :=
  ((Text.cut endsStatement (dropComments false source)).map Text.trim).filter (!·.isEmpty)

/-- What is written in a source if blanks and case do not count. -/
def surface (source : Text) : List Text := (written source).map Text.collapse

/-- What semicolons cut a line into. -/
def pieces (line : Text) : List Text := Text.cut (· == ';') (dropComment line)

theorem pieces_cons_of_plain {c : Char} (hcomment : c ≠ '#') (hmark : c ≠ ';') (line : Text) :
    pieces (c :: line) = (c :: (pieces line).headD []) :: (pieces line).tail := by
  have hdrop : dropComment (c :: line) = c :: dropComment line := by
    simp [dropComment, hcomment]
  rw [pieces, hdrop, Text.cut_cons_of_unmarked (by simpa using hmark)]
  rfl

/-- Cutting a source at once or line by line gives the same pieces. A comment that has been entered
takes the first line with it. -/
theorem cut_dropComments (source : Text) :
    Text.cut endsStatement (dropComments false source) =
        (Text.cut Text.isLineEnd source).flatMap pieces ∧
      Text.cut endsStatement (dropComments true source) =
        [] :: (Text.cut Text.isLineEnd source).tail.flatMap pieces := by
  induction source with
  | nil => exact ⟨rfl, rfl⟩
  | cons c rest ih =>
    obtain ⟨houtside, hinside⟩ := ih
    obtain ⟨line, lines, hlines⟩ :=
      List.exists_cons_of_ne_nil (Text.cut_ne_nil Text.isLineEnd rest)
    rw [hlines] at houtside hinside
    cases hend : Text.isLineEnd c with
    | true =>
      simp only [dropComments, Text.cut, endsStatement, hend, if_true, Bool.or_true]
      rw [houtside, hlines]
      exact ⟨rfl, rfl⟩
    | false =>
      have hcut : Text.cut Text.isLineEnd (c :: rest) = (c :: line) :: lines := by
        rw [Text.cut_cons_of_unmarked hend, hlines]
        rfl
      have hentered : dropComments true (c :: rest) = dropComments true rest := by
        simp [dropComments, hend]
      rw [hcut, hentered]
      refine ⟨?_, hinside⟩
      by_cases hcomment : c = '#'
      · rw [hcomment]
        exact hinside
      · have hkept : dropComments false (c :: rest) = c :: dropComments false rest := by
          simp [dropComments, hend, hcomment]
        rw [List.flatMap_cons] at houtside ⊢
        by_cases hmark : c = ';'
        · have hfirst : pieces (c :: line) = [] :: pieces line := by
            rw [hmark]
            rfl
          rw [hkept, hfirst, Text.cut, if_pos (by simp [endsStatement, hmark]), houtside]
          rfl
        · have hunmarked : endsStatement c = false := by simp [endsStatement, hend, hmark]
          obtain ⟨piece, others, hpieces⟩ :=
            List.exists_cons_of_ne_nil (Text.cut_ne_nil (· == ';') (dropComment line))
          have hpieces : pieces line = piece :: others := hpieces
          rw [hkept, pieces_cons_of_plain hcomment hmark, Text.cut_cons_of_unmarked hunmarked,
            houtside, hpieces]
          rfl

/-- What is written in a source are the statements that the assembler works on. -/
theorem written_eq (source : Text) :
    written source = (statements source).map Statement.text := by
  have hempty : lineStatements [] = [] := rfl
  have hskip : ∀ ls : List Text,
      (ls.filter (!·.isEmpty)).flatMap lineStatements = ls.flatMap lineStatements := by
    intro ls
    induction ls with
    | nil => rfl
    | cons line others ih => cases line <;> simp [ih, hempty]
  calc written source
      = (Text.cut Text.isLineEnd source).flatMap lineStatements := by
        rw [written, (cut_dropComments source).1, List.map_flatMap, List.filter_flatMap]
        rfl
    _ = (Text.lines source).flatMap lineStatements := by
        rw [← hskip, ← Text.filter_lines, hskip]
    _ = (statements source).map Statement.text := (map_text_statements source).symm

theorem dropComments_sublist (entered : Bool) (source : Text) :
    (dropComments entered source).Sublist source := by
  induction source generalizing entered with
  | nil => exact .slnil
  | cons c rest ih =>
    rw [dropComments]
    split
    · exact (ih false).cons_cons c
    · split
      · exact (ih true).cons c
      · exact (ih false).cons_cons c

theorem isBare_of_mem_written {source t : Text} (hascii : source.IsAscii)
    (ht : t ∈ written source) : t.IsBare := by
  obtain ⟨hmem, -⟩ := List.mem_filter.1 ht
  obtain ⟨piece, hpiece, rfl⟩ := List.mem_map.1 hmem
  have hchars := Text.mem_cut hpiece
  refine Text.isBare_trim ?_ ?_
  · exact fun c hc => hascii c ((dropComments_sublist false source).mem (hchars c hc).1)
  · rintro c hc rfl
    have hmark := (hchars ';' hc).2
    revert hmark
    decide

end Source

end Chip8
