/-
# Words that are joined

What is joined with blanks or line ends is taken apart again by trimming, cutting and folding, as
long as the pieces hold no blanks, line ends or marks themselves. `isPlain` picks the characters of
which all printed statements are made: printable ASCII without the marks of the source format.
-/

import Chip8.Text.Lowercase

namespace Chip8.Text

/-- What is true of the first 128 code points is true of every ASCII character. -/
theorem forall_ascii {P : Char → Prop} (hall : ∀ n : Fin 128, P (Char.ofNat n)) {c : Char}
    (hascii : c.toNat < 0x80) : P c := by
  have hc := hall ⟨c.toNat, hascii⟩
  rwa [Char.ofNat_toNat] at hc

theorem toNat_ofNat_of_valid {n : Nat} (hn : n.isValidChar) : (Char.ofNat n).toNat = n := by
  rw [Char.ofNat, dif_pos hn]
  rfl

/-- A character that stands for itself in a source: printable ASCII, no blank and no mark. -/
def isPlain (c : Char) : Bool :=
  decide (0x20 < c.toNat ∧ c.toNat < 0x7F) && c != '#' && c != ';' && c != ':'

/-- A word that is printed: not empty, and of plain characters. -/
def IsWord (w : Text) : Prop := w ≠ [] ∧ ∀ c ∈ w, isPlain c = true

instance (w : Text) : Decidable (IsWord w) :=
  decidable_of_iff ((!w.isEmpty && w.all isPlain) = true) (by simp [IsWord])

theorem isPlain_range {c : Char} (hplain : isPlain c = true) : 0x20 < c.toNat ∧ c.toNat < 0x7F := by
  simp only [isPlain, Bool.and_eq_true, decide_eq_true_eq] at hplain
  exact hplain.1.1.1

theorem isBlank_of_isPlain {c : Char} (hplain : isPlain c = true) : isBlank c = false := by
  have hrange := isPlain_range hplain
  simp only [isBlank, Bool.or_eq_false_iff, Bool.and_eq_false_iff, decide_eq_false_iff_not,
    beq_eq_false_iff_ne]
  omega

theorem join_cons_cons (separator piece next : Text) (pieces : List Text) :
    join separator (piece :: next :: pieces) =
      piece ++ separator ++ join separator (next :: pieces) :=
  List.intercalate_cons_cons

/-- A character of joined pieces belongs to the separator or to one of them. -/
theorem mem_join {separator : Text} {pieces : List Text} {c : Char}
    (hc : c ∈ join separator pieces) : c ∈ separator ∨ ∃ piece ∈ pieces, c ∈ piece := by
  induction pieces with
  | nil => cases hc
  | cons piece rest ih =>
    cases rest with
    | nil => exact .inr ⟨piece, List.mem_cons_self, by simpa [join] using hc⟩
    | cons next others =>
      rw [join_cons_cons, List.append_assoc] at hc
      rcases List.mem_append.1 hc with hfirst | hlater
      · exact .inr ⟨piece, List.mem_cons_self, hfirst⟩
      · rcases List.mem_append.1 hlater with hseparator | hrest
        · exact .inl hseparator
        · exact (ih hrest).imp_right fun ⟨other, hother, hin⟩ =>
            ⟨other, List.mem_cons_of_mem piece hother, hin⟩

/-- The words of unbroken words that are joined are these words. -/
theorem words_join_unbroken {ws : List Text}
    (hws : ∀ w ∈ ws, w ≠ [] ∧ ∀ c ∈ w, isBlank c = false) : words (join [' '] ws) = ws := by
  induction ws with
  | nil => rfl
  | cons w rest ih =>
    obtain ⟨⟨hne, hblank⟩, hothers⟩ := List.forall_mem_cons.1 hws
    have hrest : words (join [' '] rest) = rest := ih hothers
    cases rest with
    | nil => simp [words, join, cut_eq_singleton isBlank w hblank, hne]
    | cons next pieces =>
      rw [words] at hrest
      rw [join_cons_cons, List.append_assoc, List.singleton_append, words,
        cut_append_cons isBlank w _ ' ' hblank rfl, List.filter_cons_of_pos (by simp [hne]), hrest]

/-- The words of joined words are the words. -/
theorem words_join {ws : List Text} (hwords : ∀ w ∈ ws, IsWord w) : words (join [' '] ws) = ws :=
  words_join_unbroken fun w hw =>
    ⟨(hwords w hw).1, fun c hc => isBlank_of_isPlain ((hwords w hw).2 c hc)⟩

/-- A text that starts and ends with no blank is trimmed already. -/
theorem trim_eq_self {t : Text} (hfirst : ∀ c, t.head? = some c → isBlank c = false)
    (hlast : ∀ c, t.getLast? = some c → isBlank c = false) : trim t = t := by
  have hleft : trimLeft t = t := by
    cases t with
    | nil => rfl
    | cons c rest => simp [trimLeft, hfirst c rfl]
  rw [trim, hleft, trimRight]
  cases hreverse : t.reverse with
  | nil => simp_all
  | cons c rest =>
    have hc : isBlank c = false := hlast c (by rw [← List.head?_reverse, hreverse]; rfl)
    rw [List.dropWhile_cons_of_neg (by simp [hc]), ← hreverse, List.reverse_reverse]

/-- A text as statements are: plain characters and blanks, with no blank at the ends. -/
structure IsStatement (t : Text) : Prop where
  ne_nil : t ≠ []
  plain : ∀ c ∈ t, isPlain c = true ∨ c = ' '
  first : ∀ c, t.head? = some c → isPlain c = true
  last : ∀ c, t.getLast? = some c → isPlain c = true

theorem IsWord.isStatement {w : Text} (hword : IsWord w) : IsStatement w where
  ne_nil := hword.1
  plain := fun c hc => .inl (hword.2 c hc)
  first := fun c hc => hword.2 c (List.mem_of_head? hc)
  last := fun c hc => hword.2 c (List.mem_of_getLast? hc)

theorem IsStatement.append {t u : Text} (ht : IsStatement t) (hu : IsStatement u) :
    IsStatement (t ++ [' '] ++ u) where
  ne_nil := by simp
  plain := by
    intro c hc
    rcases List.mem_append.1 hc with hc | hc
    · rcases List.mem_append.1 hc with hc | hc
      · exact ht.plain c hc
      · exact .inr (List.mem_singleton.1 hc)
    · exact hu.plain c hc
  first := by
    intro c hc
    obtain ⟨d, hd⟩ := Option.isSome_iff_exists.1 (List.isSome_head?.2 ht.ne_nil)
    rw [List.append_assoc, List.head?_append, hd] at hc
    exact ht.first c (hd.trans hc)
  last := by
    intro c hc
    obtain ⟨d, hd⟩ := Option.isSome_iff_exists.1 (List.getLast?_isSome.2 hu.ne_nil)
    rw [List.getLast?_append, hd] at hc
    exact hu.last c (hd.trans hc)

/-- Joined words are a statement. -/
theorem isStatement_join {ws : List Text} (hne : ws ≠ []) (hwords : ∀ w ∈ ws, IsWord w) :
    IsStatement (join [' '] ws) := by
  induction ws with
  | nil => exact absurd rfl hne
  | cons w rest ih =>
    have hw : IsStatement w := (hwords w List.mem_cons_self).isStatement
    cases rest with
    | nil => simpa [join] using hw
    | cons next pieces =>
      rw [join_cons_cons]
      exact hw.append (ih (List.cons_ne_nil _ _) fun v hv => hwords v (List.mem_cons_of_mem w hv))

theorem IsStatement.trim_eq {t : Text} (ht : IsStatement t) : trim t = t :=
  trim_eq_self (fun c hc => isBlank_of_isPlain (ht.first c hc))
    fun c hc => isBlank_of_isPlain (ht.last c hc)

theorem IsStatement.ascii {t : Text} (ht : IsStatement t) : ∀ c ∈ t, c.toNat < 0x80 := by
  intro c hc
  rcases ht.plain c hc with hplain | rfl
  · exact Nat.lt_trans (isPlain_range hplain).2 (by decide)
  · decide

/-- No mark of the source format stands in a statement. -/
theorem IsStatement.ne_of_not_plain {t : Text} (ht : IsStatement t) {mark : Char}
    (hmark : isPlain mark = false) (hblank : mark ≠ ' ') : ∀ c ∈ t, c ≠ mark := by
  rintro c hc rfl
  rcases ht.plain c hc with hplain | hspace
  · exact absurd hplain (by simp [hmark])
  · exact hblank hspace

/-- Joining and applying a function to every character can be swapped. -/
theorem map_join (f : Char → Char) (separator : Text) (pieces : List Text) :
    (join separator pieces).map f = join (separator.map f) (pieces.map (List.map f)) := by
  induction pieces with
  | nil => rfl
  | cons piece rest ih =>
    cases rest with
    | nil => simp [join]
    | cons next pieces =>
      rw [join_cons_cons, List.map_append, List.map_append, ih, List.map_cons, List.map_cons,
        List.map_cons, join_cons_cons]

/-- ASCII is folded character by character. -/
theorem lower_eq_map {t : Text} (hascii : ∀ c ∈ t, c.toNat < 0x80) :
    lower t = t.map Char.toLower := by
  have hafter : ∀ before, lowerAfter before t = t.map Char.toLower := by
    induction t with
    | nil =>
      intro before
      rfl
    | cons c rest ih =>
      intro before
      have hc : c.toNat < 0x80 := hascii c List.mem_cons_self
      have hsigma : (c == 'Σ') = false := by
        rw [beq_eq_false_iff_ne]
        rintro rfl
        revert hc
        decide
      have hdotted : (c == 'İ') = false := by
        rw [beq_eq_false_iff_ne]
        rintro rfl
        revert hc
        decide
      rw [lowerAfter, ih (fun d hd => hascii d (List.mem_cons_of_mem c hd)), List.map_cons]
      simp [hsigma, hdotted, lowerChar, hc]
  exact hafter []

/-- A word that folding leaves as it is. -/
def IsFolded (w : Text) : Prop := ∀ c ∈ w, isPlain c = true ∧ c.toLower = c

/-- Folded words are what the readers of operands see. -/
theorem IsFolded.lower_eq {w : Text} (hfolded : IsFolded w) : dropFinalLineFeed (lower w) = w := by
  have hlower : lower w = w := by
    rw [lower_eq_map fun c hc => Nat.lt_trans (isPlain_range (hfolded c hc).1).2 (by decide)]
    exact (List.map_congr_left fun c hc => (hfolded c hc).2).trans (List.map_id w)
  have hlast : (w.getLast? == some '\n') = false := by
    rw [beq_eq_false_iff_ne]
    intro hlast
    have hplain := (hfolded '\n' (List.mem_of_getLast? hlast)).1
    revert hplain
    decide
  simp [dropFinalLineFeed, hlower, hlast]

/-- Plain characters stay plain in lower case, and folding them again changes nothing. -/
theorem toLower_of_isPlain {c : Char} (hplain : isPlain c = true) :
    isPlain c.toLower = true ∧ c.toLower.toLower = c.toLower := by
  have hascii : c.toNat < 0x80 := Nat.lt_trans (isPlain_range hplain).2 (by decide)
  exact forall_ascii (P := fun c => isPlain c = true →
    isPlain c.toLower = true ∧ c.toLower.toLower = c.toLower) (by decide) hascii hplain

theorem IsWord.isFolded {w : Text} (hword : IsWord w) : IsFolded (w.map Char.toLower) := by
  intro c hc
  obtain ⟨d, hd, rfl⟩ := List.mem_map.1 hc
  exact toLower_of_isPlain (hword.2 d hd)

theorem IsWord.map_toLower {w : Text} (hword : IsWord w) : IsWord (w.map Char.toLower) :=
  ⟨by simpa using hword.1, fun c hc => (hword.isFolded c hc).1⟩

/-- Words that are joined are found again when they are folded and cut. -/
theorem words_lower_join {ws : List Text} (hne : ws ≠ []) (hwords : ∀ w ∈ ws, IsWord w) :
    words (lower (join [' '] ws)) = ws.map (List.map Char.toLower) := by
  have hfolded : ∀ w ∈ ws.map (List.map Char.toLower), IsWord w := by
    intro w hw
    obtain ⟨v, hv, rfl⟩ := List.mem_map.1 hw
    exact (hwords v hv).map_toLower
  have hblank : [' '].map Char.toLower = [' '] := rfl
  rw [lower_eq_map (isStatement_join hne hwords).ascii, map_join, hblank, words_join hfolded]

theorem asciiUpper_eq_map {t : Text} (hascii : ∀ c ∈ t, c.toNat < 0x80) :
    asciiUpper t = some (t.map Char.toUpper) := by
  have hmap : t.mapM asciiUpper? = some (t.map fun c => [c.toUpper]) := by
    induction t with
    | nil => rfl
    | cons c rest ih =>
      have hc : asciiUpper? c = some [c.toUpper] := if_pos (hascii c List.mem_cons_self)
      simp [List.mapM_cons, hc, ih fun d hd => hascii d (List.mem_cons_of_mem c hd)]
  rw [asciiUpper, hmap, Option.map_some, ← List.flatMap_def, List.map_eq_flatMap]

end Chip8.Text
