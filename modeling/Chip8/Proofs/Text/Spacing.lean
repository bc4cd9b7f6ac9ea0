/-
# Blanks and case

A text is cut into words at its blanks, however many of them stand in a row, at its ends or in
between. What is left of a text if its blanks count no more than that, and upper case no more than
lower case, is the list of its words in lower case. Trimming and collapsing a text keep this list.
What trimming and cutting give is also said by relations on the text itself.
-/

import Mathlib.Data.List.TakeWhile
import Chip8.Proofs.Text.Folding

namespace Chip8.Text

/-- The text is ASCII. -/
def IsAscii (t : Text) : Prop := ∀ c ∈ t, c.toNat < 0x80

instance (t : Text) : Decidable (IsAscii t) :=
  decidable_of_iff (t.all (·.toNat < 0x80) = true) (by simp [IsAscii])

variable {t rest w : Text} {c : Char}

/-- A character that is no mark joins the first piece. -/
theorem cut_cons_of_unmarked {marked : Char → Bool} (hunmarked : marked c = false) (rest : Text) :
    cut marked (c :: rest) = (c :: (cut marked rest).headD []) :: (cut marked rest).tail := by
  rw [cut, hunmarked, if_neg Bool.false_ne_true]
  cases cut marked rest <;> rfl

/-- A mark cuts a text into what stands in front of it and what stands behind it. -/
theorem cut_append_mark {marked : Char → Bool} (hmark : marked c = true) (t rest : Text) :
    cut marked (t ++ c :: rest) = cut marked t ++ cut marked rest := by
  induction t with
  | nil => simp [cut, hmark]
  | cons d t ih =>
    obtain ⟨piece, pieces, hcut⟩ := List.exists_cons_of_ne_nil (cut_ne_nil marked t)
    rw [hcut] at ih
    rw [List.cons_append, cut, cut, ih, hcut]
    split <;> rfl

/-! ## Words -/

theorem words_append_blank (hblank : isBlank c = true) (t rest : Text) :
    words (t ++ c :: rest) = words t ++ words rest := by
  rw [words, cut_append_mark hblank, List.filter_append, words, words]

theorem words_cons_blank (hblank : isBlank c = true) (rest : Text) :
    words (c :: rest) = words rest :=
  words_append_blank hblank [] rest

/-- What stands in front of the first blank is the first word, if there is anything. -/
theorem words_append (hunbroken : ∀ c ∈ w, isBlank c = false)
    (hrest : ∀ c, rest.head? = some c → isBlank c = true) :
    words (w ++ rest) = [w].filter (!·.isEmpty) ++ words rest := by
  have hfirst : words w = [w].filter (!·.isEmpty) := by
    rw [words, cut_eq_singleton isBlank w hunbroken]
  cases rest with
  | nil =>
    rw [List.append_nil, hfirst]
    exact (List.append_nil _).symm
  | cons c rest =>
    rw [words_append_blank (hrest c rfl), hfirst, words_cons_blank (hrest c rfl)]

theorem exists_unbroken_append (t : Text) :
    ∃ w rest, t = w ++ rest ∧ (∀ c ∈ w, isBlank c = false) ∧
      ∀ c, rest.head? = some c → isBlank c = true := by
  refine ⟨t.takeWhile (!isBlank ·), t.dropWhile (!isBlank ·),
    List.takeWhile_append_dropWhile.symm, ?_, ?_⟩
  · intro c hc
    simpa using List.mem_takeWhile_imp hc
  · intro c hc
    have hhead := List.head?_dropWhile_not (!isBlank ·) t
    rw [hc] at hhead
    simpa using hhead

/-- A text has no words if it is blank. -/
theorem words_eq_nil_iff : words t = [] ↔ ∀ c ∈ t, isBlank c = true := by
  induction t with
  | nil => simp [words, cut]
  | cons c rest ih =>
    cases hblank : isBlank c with
    | true => rw [words_cons_blank hblank, ih, List.forall_mem_cons, and_iff_right hblank]
    | false => simp [words, cut_cons_of_unmarked hblank, hblank]

/-- Blanks at the end are in no word. -/
theorem words_append_blanks (t : Text) {blanks : Text} (hblanks : ∀ c ∈ blanks, isBlank c = true) :
    words (t ++ blanks) = words t := by
  cases blanks with
  | nil => rw [List.append_nil]
  | cons c rest =>
    obtain ⟨hblank, hrest⟩ := List.forall_mem_cons.1 hblanks
    rw [words_append_blank hblank, words_eq_nil_iff.2 hrest, List.append_nil]

theorem words_trimLeft (t : Text) : words (trimLeft t) = words t := by
  induction t with
  | nil => rfl
  | cons c rest ih =>
    cases hblank : isBlank c with
    | true =>
      rw [words_cons_blank hblank, ← ih]
      simp [trimLeft, hblank]
    | false => simp [trimLeft, hblank]

/-- The blanks that trimming takes off the end. -/
theorem exists_append_trimRight (t : Text) :
    ∃ blanks, t = trimRight t ++ blanks ∧ ∀ c ∈ blanks, isBlank c = true := by
  refine ⟨(t.reverse.takeWhile isBlank).reverse, ?_, ?_⟩
  · rw [trimRight, ← List.reverse_append, List.takeWhile_append_dropWhile, List.reverse_reverse]
  · intro c hc
    exact List.mem_takeWhile_imp (List.mem_reverse.1 hc)

/-- Trimming a text keeps its words. -/
theorem words_trim (t : Text) : words (trim t) = words t := by
  obtain ⟨blanks, hsplit, hblanks⟩ := exists_append_trimRight (trimLeft t)
  calc words (trim t)
      = words (trim t ++ blanks) := (words_append_blanks _ hblanks).symm
    _ = words (trimLeft t) := by rw [trim, ← hsplit]
    _ = words t := words_trimLeft t

theorem mem_of_mem_trim (hc : c ∈ trim t) : c ∈ t := by
  obtain ⟨blanks, hsplit, -⟩ := exists_append_trimRight (trimLeft t)
  have hleft : c ∈ trimLeft t := by
    rw [hsplit]
    exact List.mem_append_left _ hc
  exact (List.dropWhile_sublist isBlank).mem hleft

theorem isBlank_of_head?_trimLeft (hc : (trimLeft t).head? = some c) : isBlank c = false := by
  have hhead := List.head?_dropWhile_not isBlank t
  rw [show t.dropWhile isBlank = trimLeft t from rfl, hc] at hhead
  simpa using hhead

/-- A trimmed text starts with no blank. -/
theorem isBlank_of_head?_trim (hc : (trim t).head? = some c) : isBlank c = false := by
  obtain ⟨blanks, hsplit, -⟩ := exists_append_trimRight (trimLeft t)
  have hfirst : (trimLeft t).head? = some c := by
    rw [hsplit, List.head?_append, show trimRight (trimLeft t) = trim t from rfl, hc]
    rfl
  exact isBlank_of_head?_trimLeft hfirst

/-- A text that starts with no blank starts with its first word. -/
theorem exists_append_of_words_eq_cons {ws : List Text}
    (hfirst : ∀ c, t.head? = some c → isBlank c = false) (hwords : words t = w :: ws) :
    ∃ rest, t = w ++ rest ∧ (∀ c ∈ w, isBlank c = false) ∧
      (∀ c, rest.head? = some c → isBlank c = true) ∧ words rest = ws := by
  obtain ⟨v, rest, rfl, hunbroken, hblank⟩ := exists_unbroken_append t
  have hne : v ≠ [] := by
    rintro rfl
    cases rest with
    | nil => cases hwords
    | cons d rest =>
      have hd := hfirst d rfl
      rw [hblank d rfl] at hd
      cases hd
  have hsame := words_append hunbroken hblank
  rw [hwords, List.filter_cons_of_pos (by simp [hne])] at hsame
  obtain ⟨rfl, rfl⟩ := List.cons.inj hsame
  exact ⟨rest, rfl, hunbroken, hblank, rfl⟩

/-! ## Trimming and cutting, step by step -/

/-- Without the blanks at its ends the text is this one. -/
structure TrimsTo (t core : Text) : Prop where
  around : ∃ front back, t = front ++ core ++ back ∧ (∀ c ∈ front, isBlank c = true) ∧
    ∀ c ∈ back, isBlank c = true
  first : ∀ c, core.head? = some c → isBlank c = false
  last : ∀ c, core.getLast? = some c → isBlank c = false

/-- The text is blanks and these words in turn, with a blank between neighbours. -/
inductive FallsInto : Text → List Text → Prop
  | blanks {t : Text} (blank : ∀ c ∈ t, isBlank c = true) : FallsInto t []
  | word {front w rest : Text} {ws : List Text} (before : ∀ c ∈ front, isBlank c = true)
      (nonempty : w ≠ []) (unbroken : ∀ c ∈ w, isBlank c = false)
      (ends : ∀ c, rest.head? = some c → isBlank c = true) (others : FallsInto rest ws) :
      FallsInto (front ++ (w ++ rest)) (w :: ws)

theorem trimLeft_blanks_append {front : Text} (hfront : ∀ c ∈ front, isBlank c = true)
    (t : Text) : trimLeft (front ++ t) = trimLeft t := List.dropWhile_append_of_pos hfront

/-- The blanks that trimming takes off the front. -/
theorem exists_append_trimLeft (t : Text) :
    ∃ blanks, t = blanks ++ trimLeft t ∧ ∀ c ∈ blanks, isBlank c = true :=
  ⟨t.takeWhile isBlank, List.takeWhile_append_dropWhile.symm, fun _ hc =>
    List.mem_takeWhile_imp hc⟩

/-- A trimmed text ends in no blank. -/
theorem isBlank_of_getLast?_trim (hc : (trim t).getLast? = some c) : isBlank c = false := by
  have hlast : ((trimLeft t).reverse.dropWhile isBlank).head? = some c := by
    rw [← hc, trim, trimRight, List.getLast?_reverse]
  have hhead := List.head?_dropWhile_not isBlank (trimLeft t).reverse
  rw [hlast] at hhead
  simpa using hhead

theorem trimsTo_iff {core : Text} : t.TrimsTo core ↔ trim t = core := by
  constructor
  · rintro ⟨⟨front, back, rfl, hfront, hback⟩, hfirst, hlast⟩
    have hright : trimRight (core ++ back) = trimRight core := by
      rw [trimRight, List.reverse_append, List.dropWhile_append_of_pos, trimRight]
      exact fun c hc => hback c (List.mem_reverse.1 hc)
    have hcore := trim_eq_self hfirst hlast
    rw [List.append_assoc, trim, trimLeft_blanks_append hfront]
    cases core with
    | nil =>
      have hnothing : trimLeft back = [] := List.dropWhile_eq_nil_iff.2 hback
      rw [List.nil_append, hnothing]
      rfl
    | cons c rest =>
      have hc : ¬ isBlank c = true := by simp [hfirst c rfl]
      rw [trim, trimLeft, List.dropWhile_cons_of_neg hc] at hcore
      rw [trimLeft, List.cons_append, List.dropWhile_cons_of_neg hc, ← List.cons_append, hright,
        hcore]
  · rintro rfl
    obtain ⟨front, hsplit, hfront⟩ := exists_append_trimLeft t
    obtain ⟨back, hsplit', hback⟩ := exists_append_trimRight (trimLeft t)
    refine ⟨⟨front, back, ?_, hfront, hback⟩, fun _ hc => isBlank_of_head?_trim hc,
      fun _ hc => isBlank_of_getLast?_trim hc⟩
    rw [List.append_assoc, trim, ← hsplit', ← hsplit]

theorem fallsInto_iff {ws : List Text} : t.FallsInto ws ↔ words t = ws := by
  constructor
  · intro hfalls
    induction hfalls with
    | blanks hblank => exact words_eq_nil_iff.2 hblank
    | @word front w rest ws hfront hne hunbroken hends _ ih =>
      rw [← words_trimLeft, trimLeft_blanks_append hfront, words_trimLeft,
        words_append hunbroken hends, ih, List.filter_cons_of_pos (by simp [hne])]
      rfl
  · intro hwords
    induction ws generalizing t with
    | nil => exact .blanks (words_eq_nil_iff.1 hwords)
    | cons w ws ih =>
      obtain ⟨front, hsplit, hfront⟩ := exists_append_trimLeft t
      have hleft : words (trimLeft t) = w :: ws := (words_trimLeft t).trans hwords
      obtain ⟨rest, hrest, hunbroken, hends, hothers⟩ :=
        exists_append_of_words_eq_cons (fun _ hc => isBlank_of_head?_trimLeft hc) hleft
      have hne : w ≠ [] := (mem_words (hleft ▸ List.mem_cons_self)).1
      rw [hsplit, hrest]
      exact .word hfront hne hunbroken hends (ih hothers)

/-! ## Case -/

/-- What does not tell the case of ASCII letters tells that of no letter. -/
theorem apply_toLower {α : Type} {f : Char → α}
    (hall : ∀ n : Fin 128, f (Char.ofNat n).toLower = f (Char.ofNat n)) (c : Char) :
    f c.toLower = f c := by
  by_cases hascii : c.toNat < 0x80
  · exact forall_ascii (P := fun c => f c.toLower = f c) hall hascii
  · rw [toLower_of_not_ascii (Nat.not_lt.1 hascii)]

theorem isBlank_toLower (c : Char) : isBlank c.toLower = isBlank c := apply_toLower (by decide) c

/-- Case makes no difference to where a text is cut into words. -/
theorem words_map_toLower (t : Text) :
    words (t.map Char.toLower) = (words t).map (List.map Char.toLower) := by
  have hcut : cut isBlank (t.map Char.toLower) = (cut isBlank t).map (List.map Char.toLower) := by
    induction t with
    | nil => rfl
    | cons c rest ih =>
      rw [List.map_cons]
      cases hblank : isBlank c with
      | true => simp [cut, isBlank_toLower, hblank, ih]
      | false =>
        rw [cut_cons_of_unmarked (by rw [isBlank_toLower, hblank]), cut_cons_of_unmarked hblank, ih]
        cases cut isBlank rest <;> rfl
  rw [words, hcut, List.filter_map, words]
  congr 2
  funext piece
  simp

theorem words_lower (hascii : t.IsAscii) :
    words (lower t) = (words t).map (List.map Char.toLower) := by
  rw [lower_eq_map hascii, words_map_toLower]

/-- ASCII that has been folded is folded to the same text. -/
theorem lower_map_toLower (hascii : t.IsAscii) :
    lower (t.map Char.toLower) = lower t := by
  have hfolded : ∀ c ∈ t, c.toLower.toNat < 0x80 ∧ c.toLower.toLower = c.toLower := fun c hc =>
    forall_ascii (P := fun c => c.toLower.toNat < 0x80 ∧ c.toLower.toLower = c.toLower) (by decide)
      (hascii c hc)
  have hmapped : IsAscii (t.map Char.toLower) := by
    intro c hc
    obtain ⟨d, hd, rfl⟩ := List.mem_map.1 hc
    exact (hfolded d hd).1
  rw [lower_eq_map hmapped, lower_eq_map hascii, List.map_map]
  exact List.map_congr_left fun c hc => (hfolded c hc).2

/-! ## Texts of the same words -/

/-- The text with one blank between its words and none at its ends, in lower case. -/
def collapse (t : Text) : Text := lower (join [' '] (words t))

/-- The words of both texts are the same but for their case. -/
def SameWords (t u : Text) : Prop := words (lower t) = words (lower u)

/-- What is collapsed has the words that it had. -/
theorem words_collapse (hascii : t.IsAscii) : words (collapse t) = words (lower t) := by
  have hjoined : IsAscii (join [' '] (words t)) := by
    intro c hc
    rcases mem_join hc with hblank | ⟨w, hw, hin⟩
    · rw [List.mem_singleton.1 hblank]
      decide
    · exact hascii c ((mem_words hw).2 c hin).1
  have hunbroken : ∀ w ∈ words t, w ≠ [] ∧ ∀ c ∈ w, isBlank c = false := fun w hw =>
    ⟨(mem_words hw).1, fun c hc => ((mem_words hw).2 c hc).2⟩
  rw [collapse, words_lower hjoined, words_join_unbroken hunbroken, words_lower hascii]

/-- Texts that collapse to the same text have the same words. -/
theorem sameWords_of_collapse_eq {u : Text} (ht : t.IsAscii) (hu : u.IsAscii)
    (hsame : collapse t = collapse u) : t.SameWords u := by
  rw [SameWords, ← words_collapse ht, hsame, words_collapse hu]

/-! ## Statements -/

/-- A text as statements are: ASCII, without semicolons and without a blank in front. -/
structure IsBare (t : Text) : Prop where
  ascii : t.IsAscii
  unmarked : ∀ c ∈ t, c ≠ ';'
  first : ∀ c, t.head? = some c → isBlank c = false

theorem isBare_trim {t : Text} (hascii : t.IsAscii) (hunmarked : ∀ c ∈ t, c ≠ ';') :
    IsBare (trim t) where
  ascii c hc := hascii c (mem_of_mem_trim hc)
  unmarked c hc := hunmarked c (mem_of_mem_trim hc)
  first _ hc := isBlank_of_head?_trim hc

/-- What stands behind a character of a bare text is bare as well, once it is trimmed. -/
theorem IsBare.trim_behind {front : Text} (ht : IsBare (front ++ c :: rest)) : IsBare (trim rest) :=
  have hin : ∀ d ∈ rest, d ∈ front ++ c :: rest := fun _ hd =>
    List.mem_append_right front (List.mem_cons_of_mem c hd)
  isBare_trim (fun d hd => ht.ascii d (hin d hd)) fun d hd => ht.unmarked d (hin d hd)

/-- A bare text is empty if it has no words. -/
theorem IsBare.eq_nil_iff {t : Text} (ht : IsBare t) : t = [] ↔ words (lower t) = [] := by
  rw [words_lower ht.ascii, List.map_eq_nil_iff, words_eq_nil_iff]
  constructor
  · rintro rfl c hc
    cases hc
  · intro hblank
    cases t with
    | nil => rfl
    | cons c rest =>
      have hfirst := ht.first c rfl
      rw [hblank c List.mem_cons_self] at hfirst
      cases hfirst

theorem IsStatement.isBare (ht : IsStatement t) : IsBare t where
  ascii := ht.ascii
  unmarked := ht.ne_of_not_plain (by decide) (by decide)
  first c hc := isBlank_of_isPlain (ht.first c hc)

end Chip8.Text
