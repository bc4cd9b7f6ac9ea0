/-
# Texts within one line

A text without line feeds is one line. Such texts joined with line feeds are got back by cutting at
the line feeds, so a report that is put together from lines shows exactly these lines. Texts of
printable ASCII are within one line in the sense of Unicode too, which knows more line ends.
-/

import Chip8.Proofs.Text.Numerals

namespace Chip8

namespace Text

/-- The text consists of printable ASCII characters. -/
def IsPrintable (t : Text) : Prop := ∀ c ∈ t, 0x20 ≤ c.toNat ∧ c.toNat < 0x7F

@[simp] theorem isPrintable_cons {c : Char} {t : Text} :
    IsPrintable (c :: t) ↔ (0x20 ≤ c.toNat ∧ c.toNat < 0x7F) ∧ IsPrintable t :=
  List.forall_mem_cons

@[simp] theorem isPrintable_append {t u : Text} :
    IsPrintable (t ++ u) ↔ IsPrintable t ∧ IsPrintable u :=
  List.forall_mem_append

theorem isPrintable_of_isPlain {t : Text} (hplain : ∀ c ∈ t, isPlain c = true) :
    IsPrintable t := by
  intro c hc
  have hrange := isPlain_range (hplain c hc)
  omega

theorem IsStatement.isPrintable {t : Text} (ht : t.IsStatement) : IsPrintable t := by
  intro c hc
  rcases ht.plain c hc with hplain | rfl
  · have hrange := isPlain_range hplain
    omega
  · decide

@[simp] theorem isPrintable_hexPadded (width n : Nat) : IsPrintable (hexPadded width n) :=
  isPrintable_of_isPlain fun _ => isPlain_of_mem_hexPadded

@[simp] theorem isPrintable_hexSigned (width : Nat) (value : Int) :
    IsPrintable (hexSigned width value) :=
  isPrintable_of_isPlain fun _ => isPlain_of_mem_hexSigned

@[simp] theorem isPrintable_hexBytes (bytes : List UInt8) : IsPrintable (hexBytes bytes) := by
  intro c hc
  rcases mem_join hc with hblank | ⟨piece, hpiece, hin⟩
  · obtain rfl := List.mem_singleton.1 hblank
    decide
  · obtain ⟨b, -, rfl⟩ := List.mem_map.1 hpiece
    exact isPrintable_hexPadded 2 b.toNat c hin

/-! ## Cutting at line feeds -/

/-- Joined with a mark that stands in none of them, pieces are got back by cutting at the mark. -/
theorem cut_join (marked : Char → Bool) {mark : Char} (hmark : marked mark = true)
    {pieces : List Text} (hne : pieces ≠ [])
    (hunmarked : ∀ piece ∈ pieces, ∀ c ∈ piece, marked c = false) :
    cut marked (join [mark] pieces) = pieces := by
  induction pieces with
  | nil => exact absurd rfl hne
  | cons piece rest ih =>
    have hpiece := hunmarked piece List.mem_cons_self
    have hrest := fun other hmem => hunmarked other (List.mem_cons_of_mem piece hmem)
    cases rest with
    | nil => simp [join, cut_eq_singleton marked piece hpiece]
    | cons next others =>
      rw [join_cons_cons, List.append_assoc, List.singleton_append,
        cut_append_cons marked piece _ mark hpiece hmark, ih (List.cons_ne_nil _ _) hrest]

/-- The text is within one line. -/
def IsInline (t : Text) : Prop := '\n' ∉ t

instance (t : Text) : Decidable (IsInline t) := inferInstanceAs (Decidable ('\n' ∉ t))

@[simp] theorem isInline_append {t u : Text} : IsInline (t ++ u) ↔ IsInline t ∧ IsInline u := by
  simp [IsInline]

@[simp] theorem isInline_nil : IsInline [] := List.not_mem_nil

@[simp] theorem isInline_cons {c : Char} {t : Text} :
    IsInline (c :: t) ↔ c ≠ '\n' ∧ IsInline t := by
  simp [IsInline, eq_comm]

theorem IsPrintable.isInline {t : Text} (ht : t.IsPrintable) : IsInline t :=
  fun hmem => absurd (ht '\n' hmem) (by decide)

theorem IsStatement.isInline {t : Text} (ht : t.IsStatement) : IsInline t :=
  ht.isPrintable.isInline

@[simp] theorem isInline_hexPadded (width n : Nat) : IsInline (hexPadded width n) :=
  (isPrintable_hexPadded width n).isInline

@[simp] theorem isInline_hexNat (n : Nat) : IsInline (hexNat n) := by
  have hpadded := isInline_hexPadded 0 n
  rwa [hexPadded, padZeros, Nat.zero_sub] at hpadded

@[simp] theorem isInline_decimalNat (n : Nat) : IsInline (decimalNat n) :=
  (isPrintable_of_isPlain (isWord_decimalNat n).2).isInline

@[simp] theorem isInline_hexSigned (width : Nat) (value : Int) :
    IsInline (hexSigned width value) :=
  (isPrintable_hexSigned width value).isInline

@[simp] theorem isInline_repr (value : Int) : IsInline value.repr.toList := by
  have hdecimal : value.repr.toList = decimal value := by
    cases value <;> simp [decimal, decimalNat, Int.repr, Nat.repr]
  rw [hdecimal]
  cases value with
  | ofNat n => exact isInline_decimalNat n
  | negSucc n => exact isInline_cons.2 ⟨by decide, isInline_decimalNat (n + 1)⟩

theorem isInline_padRight {t : Text} (ht : IsInline t) (width : Nat) :
    IsInline (padRight width t) := by
  refine isInline_append.2 ⟨ht, fun hmem => ?_⟩
  exact absurd (List.eq_of_mem_replicate hmem) (by decide)

theorem isInline_join_map {separator : Text} (hseparator : IsInline separator) {α : Type}
    {f : α → Text} (items : List α) (hf : ∀ item, IsInline (f item)) :
    IsInline (join separator (items.map f)) := by
  intro hmem
  rcases mem_join hmem with hin | ⟨piece, hpiece, hin⟩
  · exact hseparator hin
  · obtain ⟨item, -, rfl⟩ := List.mem_map.1 hpiece
    exact hf item hin

/-- Cut at its line feeds, a text that is joined from lines falls into them. -/
theorem cut_join_lineFeed {pieces : List Text} (hne : pieces ≠ [])
    (hinline : ∀ piece ∈ pieces, IsInline piece) :
    cut (· == '\n') (join ['\n'] pieces) = pieces := by
  refine cut_join (· == '\n') (beq_self_eq_true '\n') hne ?_
  intro piece hmem c hc
  exact beq_false_of_ne fun heq => hinline piece hmem (heq ▸ hc)

/-! ## Lines by all line ends -/

/-- A character that ends no line belongs to the first line, which may be empty behind it. -/
theorem lines_cons_of_not_isLineEnd {c : Char} (hc : isLineEnd c = false) (t : Text) :
    lines (c :: t) = (c :: (lines t).headD []) :: (lines t).tail := by
  have hreturn : c ≠ '\r' := by
    rintro rfl
    exact absurd hc (by decide)
  cases t with
  | nil => simp [lines, hc]
  | cons d t => cases hlines : lines (d :: t) <;> simp [lines, hc, hreturn, hlines]

theorem lines_cons {t line : Text} {others : List Text} {c : Char} (hc : isLineEnd c = false)
    (hlines : lines t = line :: others) : lines (c :: t) = (c :: line) :: others := by
  rw [lines_cons_of_not_isLineEnd hc, hlines]
  rfl

theorem IsPrintable.not_isLineEnd {t : Text} (ht : t.IsPrintable) :
    ∀ c ∈ t, isLineEnd c = false := by
  intro c hc
  have hrange := ht c hc
  simp only [isLineEnd, Bool.or_eq_false_iff, Bool.and_eq_false_iff, decide_eq_false_iff_not,
    beq_eq_false_iff_ne]
  omega

theorem IsStatement.not_isLineEnd {t : Text} (ht : t.IsStatement) :
    ∀ c ∈ t, isLineEnd c = false :=
  ht.isPrintable.not_isLineEnd

theorem lines_of_isPrintable {t : Text} (hne : t ≠ []) (ht : t.IsPrintable) : lines t = [t] := by
  induction t with
  | nil => exact absurd rfl hne
  | cons c t ih =>
    have hc : isLineEnd c = false := ht.not_isLineEnd c List.mem_cons_self
    rw [lines_cons_of_not_isLineEnd hc]
    cases t with
    | nil => rfl
    | cons d t => rw [ih (List.cons_ne_nil d t) (isPrintable_cons.1 ht).2]; rfl

/-- A line feed ends the printable line in front of it. -/
theorem lines_append_lineFeed {t : Text} (ht : t.IsPrintable) (rest : Text) :
    lines (t ++ '\n' :: rest) = t :: lines rest := by
  induction t with
  | nil => simp [lines, show isLineEnd '\n' = true by decide]
  | cons c t ih =>
    exact lines_cons (ht.not_isLineEnd c List.mem_cons_self) (ih (isPrintable_cons.1 ht).2)

/-- The lines of a report are the rows that were joined, as long as all of them are printable and
none is empty. -/
theorem lines_join_lineFeed {rows : List Text}
    (hrows : ∀ row ∈ rows, row ≠ [] ∧ row.IsPrintable) : lines (join ['\n'] rows) = rows := by
  induction rows with
  | nil => rfl
  | cons row rest ih =>
    obtain ⟨⟨hne, hprintable⟩, hothers⟩ := List.forall_mem_cons.1 hrows
    cases rest with
    | nil => simpa [join] using lines_of_isPrintable hne hprintable
    | cons next others =>
      rw [join_cons_cons, List.append_assoc, List.singleton_append,
        lines_append_lineFeed hprintable, ih hothers]

end Text

end Chip8
