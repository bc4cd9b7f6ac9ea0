/-
# What folding leaves

Folding a text to lower case leaves no ASCII capital in it, and no character beyond ASCII that
would fold into ASCII. The Kelvin sign is the only such character. A folded word therefore has its
ASCII spelling only if it is spelled so, which lets the reader of operands fold its tokens again
without reading anything new.
-/

import Chip8.Proofs.Text.Words

namespace Chip8.Text

/-- A stretch beyond ASCII whose partners are characters beyond ASCII, none of them the Kelvin
sign. -/
def CaseStretch.staysOutside (s : CaseStretch) : Bool :=
  decide (0x80 ≤ s.first + s.shift) &&
    (decide (s.last + s.shift < 0x212A) || decide (0x212A < s.first + s.shift)) &&
    (decide (s.last + s.shift < 0xD800) ||
      (decide (0xE000 ≤ s.first + s.shift) && decide (s.last + s.shift < 0x110000)))

/-- Of the stretches beyond ASCII only the one of the Kelvin sign leads into ASCII. -/
theorem staysOutside_of_mem {s : CaseStretch} (hs : s ∈ caseStretches) :
    s.last < 0x80 ∨ s.staysOutside = true ∨
      s.first = 0x212A ∧ s.last = 0x212A ∧ s.shift = -8383 := by
  have hall : ∀ s ∈ caseStretches, s.last < 0x80 ∨ s.staysOutside = true ∨
      s.first = 0x212A ∧ s.last = 0x212A ∧ s.shift = -8383 := by
    decide +kernel
  exact hall s hs

/-- A character as folded text has them: no ASCII capital, and not the Kelvin sign, the one
character beyond ASCII whose lower case is an ASCII letter. -/
structure IsSettled (c : Char) : Prop where
  noCapital : c.toLower = c
  noKelvin : c.toNat ≠ 0x212A

theorem isSettled_toLower {c : Char} (hascii : c.toNat < 0x80) : IsSettled c.toLower := by
  have hc := forall_ascii
    (P := fun c => c.toLower.toLower = c.toLower ∧ c.toLower.toNat ≠ 0x212A) (by decide) hascii
  exact ⟨hc.1, hc.2⟩

theorem toLower_of_not_ascii {c : Char} (hc : 0x80 ≤ c.toNat) : c.toLower = c := by
  have hcode : c.toNat = c.val.toNat := rfl
  have hbelow : ¬ (c.val ≥ 'A'.val ∧ c.val ≤ 'Z'.val) := by
    rintro ⟨-, hlast⟩
    have hle : c.val.toNat ≤ 90 := hlast
    omega
  exact dif_neg hbelow

/-- What stands for a letter beyond ASCII: `k` for the Kelvin sign, or a settled letter beyond ASCII
otherwise. -/
theorem lowerChar_of_not_ascii {c : Char} (hc : 0x80 ≤ c.toNat) :
    c.toNat = 0x212A ∧ lowerChar c = 'k' ∨
      0x80 ≤ (lowerChar c).toNat ∧ IsSettled (lowerChar c) := by
  rw [lowerChar, if_neg (Nat.not_lt.2 hc)]
  cases hfind : caseStretches.find? (·.covers c.toNat) with
  | none =>
    refine .inr ⟨hc, toLower_of_not_ascii hc, fun hkelvin => ?_⟩
    rw [hkelvin] at hfind
    revert hfind
    decide +kernel
  | some s =>
    have hcovers := List.find?_some hfind
    simp only [CaseStretch.covers, Bool.and_eq_true, decide_eq_true_eq] at hcovers
    rcases staysOutside_of_mem (List.mem_of_find?_eq_some hfind) with hascii | houtside | hkelvin
    · omega
    · simp only [CaseStretch.staysOutside, Bool.and_eq_true, Bool.or_eq_true,
        decide_eq_true_eq] at houtside
      have hvalid : (c.toNat + s.shift).toNat.isValidChar := by
        unfold Nat.isValidChar
        omega
      have hcode := toNat_ofNat_of_valid hvalid
      refine .inr ⟨by dsimp only; omega, toLower_of_not_ascii (by dsimp only; omega), ?_⟩
      dsimp only
      omega
    · obtain ⟨hfirst, hlast, hshift⟩ := hkelvin
      have hcode : c.toNat = 0x212A := by omega
      refine .inl ⟨hcode, ?_⟩
      simp only [hcode, hshift]
      rfl

theorem isSettled_lowerChar (c : Char) : IsSettled (lowerChar c) := by
  by_cases hascii : c.toNat < 0x80
  · rw [lowerChar, if_pos hascii]
    exact isSettled_toLower hascii
  · rcases lowerChar_of_not_ascii (Nat.not_lt.1 hascii) with ⟨-, hk⟩ | ⟨-, hsettled⟩
    · rw [hk]
      exact ⟨rfl, by decide⟩
    · exact hsettled

/-- A settled character that is folded into ASCII is not changed. -/
theorem IsSettled.lowerChar_eq {c : Char} (hc : IsSettled c) (hascii : (lowerChar c).toNat < 0x80) :
    lowerChar c = c := by
  by_cases hcode : c.toNat < 0x80
  · rw [lowerChar, if_pos hcode, hc.noCapital]
  · rcases lowerChar_of_not_ascii (Nat.not_lt.1 hcode) with ⟨hkelvin, -⟩ | ⟨houtside, -⟩
    · exact absurd hkelvin hc.noKelvin
    · omega

theorem isSettled_of_mem_lowerAfter {before t : Text} {c : Char} (hc : c ∈ lowerAfter before t) :
    IsSettled c := by
  induction t generalizing before with
  | nil => cases hc
  | cons d rest ih =>
    rw [lowerAfter] at hc
    rcases List.mem_append.1 hc with hhead | htail
    · split at hhead
      · rw [List.mem_singleton.1 hhead]
        split <;> exact ⟨by decide, by decide⟩
      · split at hhead
        · rcases List.mem_cons.1 hhead with rfl | hdot
          · exact ⟨by decide, by decide⟩
          · rw [List.mem_singleton.1 hdot]
            exact ⟨by decide, by decide⟩
        · rw [List.mem_singleton.1 hhead]
          exact isSettled_lowerChar d
    · exact ih htail

/-- Folded text is settled. -/
theorem isSettled_of_mem_lower {t : Text} {c : Char} (hc : c ∈ lower t) : IsSettled c :=
  isSettled_of_mem_lowerAfter hc

theorem lowerAfter_eq_self {w : Text} (hsettled : ∀ c ∈ w, IsSettled c) {before : Text}
    (hascii : ∀ c ∈ lowerAfter before w, c.toNat < 0x80) : lowerAfter before w = w := by
  induction w generalizing before with
  | nil => rfl
  | cons c rest ih =>
    rw [lowerAfter] at hascii ⊢
    have hrest : lowerAfter (c :: before) rest = rest :=
      ih (fun d hd => hsettled d (List.mem_cons_of_mem c hd))
        fun d hd => hascii d (List.mem_append_right _ hd)
    rw [hrest]
    -- Neither a sigma nor a dotted capital is folded into ASCII.
    have hhead := fun d hd => hascii d (List.mem_append_left _ hd)
    split at hhead
    · split at hhead <;> exact absurd (hhead _ List.mem_cons_self) (by decide)
    · rename_i hsigma
      split at hhead
      · exact absurd (hhead '\u0307' (by decide)) (by decide)
      · rename_i hdotted
        have hc := (hsettled c List.mem_cons_self).lowerChar_eq (hhead _ List.mem_cons_self)
        rw [if_neg hsigma, if_neg hdotted, hc]
        rfl

/-- Settled text that is folded into ASCII is not changed. -/
theorem lower_eq_self {w : Text} (hsettled : ∀ c ∈ w, IsSettled c)
    (hascii : ∀ c ∈ lower w, c.toNat < 0x80) : lower w = w :=
  lowerAfter_eq_self hsettled hascii

/-- The characters of a piece are those of the text, and none of them is a mark. -/
theorem mem_cut {marked : Char → Bool} {t piece : Text} (hpiece : piece ∈ cut marked t) :
    ∀ c ∈ piece, c ∈ t ∧ marked c = false := by
  induction t generalizing piece with
  | nil =>
    rw [List.mem_singleton.1 hpiece]
    simp
  | cons d rest ih =>
    intro c hc
    rw [cut] at hpiece
    split at hpiece
    · rcases List.mem_cons.1 hpiece with rfl | htail
      · cases hc
      · exact ⟨List.mem_cons_of_mem d (ih htail c hc).1, (ih htail c hc).2⟩
    · rename_i hunmarked
      split at hpiece
      · rename_i hnil
        exact absurd hnil (cut_ne_nil marked rest)
      · rename_i first others hcut
        rw [hcut] at ih
        rcases List.mem_cons.1 hpiece with rfl | htail
        · rcases List.mem_cons.1 hc with rfl | hc
          · exact ⟨List.mem_cons_self, Bool.eq_false_iff.2 hunmarked⟩
          · have hfirst := ih List.mem_cons_self c hc
            exact ⟨List.mem_cons_of_mem d hfirst.1, hfirst.2⟩
        · have hothers := ih (List.mem_cons_of_mem first htail) c hc
          exact ⟨List.mem_cons_of_mem d hothers.1, hothers.2⟩

/-- A word of a text is unbroken and made of its characters. -/
theorem mem_words {t w : Text} (hw : w ∈ words t) :
    w ≠ [] ∧ ∀ c ∈ w, c ∈ t ∧ isBlank c = false := by
  obtain ⟨hpiece, hne⟩ := List.mem_filter.1 hw
  exact ⟨by simpa using hne, mem_cut hpiece⟩

/-- A word as the readers of operands see it: settled, and without blanks. -/
def IsSettledWord (w : Text) : Prop := ∀ c ∈ w, IsSettled c ∧ isBlank c = false

theorem mem_of_mem_dropFinalLineFeed {t : Text} {c : Char} (hc : c ∈ dropFinalLineFeed t) :
    c ∈ t := by
  rw [dropFinalLineFeed] at hc
  split at hc
  · exact (List.dropLast_sublist t).mem hc
  · exact hc

/-- What the readers make of such a word is the word itself, unless it is not ASCII. -/
theorem IsSettledWord.eq_of_ascii {w : Text} (hw : IsSettledWord w)
    (hascii : ∀ c ∈ dropFinalLineFeed (lower w), c.toNat < 0x80) :
    dropFinalLineFeed (lower w) = w := by
  have hfeed : '\n'.toNat < 0x80 := by decide
  have hall : ∀ c ∈ lower w, c.toNat < 0x80 := by
    intro c hc
    rw [dropFinalLineFeed] at hascii
    split at hascii
    · rename_i hlast
      obtain ⟨front, hfront⟩ := List.getLast?_eq_some_iff.1 (beq_iff_eq.1 hlast)
      rw [hfront, List.dropLast_concat] at hascii
      rw [hfront] at hc
      rcases List.mem_append.1 hc with hfront | hlast
      · exact hascii c hfront
      · exact List.mem_singleton.1 hlast ▸ hfeed
    · exact hascii c hc
  have hlower := lower_eq_self (fun c hc => (hw c hc).1) hall
  rw [hlower, dropFinalLineFeed, if_neg]
  rw [beq_iff_eq]
  intro hlast
  exact absurd (hw '\n' (List.mem_of_getLast? hlast)).2 (by decide)

end Chip8.Text
