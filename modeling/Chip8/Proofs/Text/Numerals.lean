/-
# Numerals that are read back

A number that is written in decimal or in hexadecimal, padded with zeros or not and in either case,
is read back as the same number. The other way round, a reader of digits reads exactly the texts
that spell a number in its base.
-/

import Mathlib.Algebra.Group.Nat.Defs
import Chip8.Proofs.Text.Words
import Chip8.Text.Numeral

namespace Chip8.Text

theorem ofDigits_concat (base : Nat) (digits : List Nat) (digit : Nat) :
    ofDigits base (digits ++ [digit]) = ofDigits base digits * base + digit := by
  rw [ofDigits, List.foldl_append]
  rfl

/-- Zeros in front do not count. -/
theorem ofDigits_replicate_append (base zeros : Nat) (digits : List Nat) :
    ofDigits base (List.replicate zeros 0 ++ digits) = ofDigits base digits := by
  induction zeros with
  | zero => rfl
  | succ zeros ih => simpa [List.replicate_succ, ofDigits] using ih

/-- The digits of a number are digits of the base. -/
theorem exists_digitChar_of_mem_toDigits {b n : Nat} (hb : 1 < b) {c : Char}
    (hc : c ∈ Nat.toDigits b n) : ∃ d, d < b ∧ c = Nat.digitChar d := by
  induction n using Nat.strongRecOn with
  | _ n ih =>
    rw [Nat.toDigits_eq_if hb] at hc
    split at hc
    · rename_i hsmall
      exact ⟨n, hsmall, List.mem_singleton.1 hc⟩
    · rename_i hlarge
      rcases List.mem_append.1 hc with hfront | hlast
      · exact ih (n / b) (Nat.div_lt_self (by omega) hb) hfront
      · exact ⟨n % b, Nat.mod_lt n (by omega), List.mem_singleton.1 hlast⟩

section Reading

variable {b : Nat} {digit? : Char → Option Nat} {shape : Char → Char}

/-- The digits of a number, each written in some shape, are read as digits of the number. -/
theorem exists_mapM_toDigits (hb : 1 < b)
    (hdigit : ∀ d, d < b → digit? (shape (Nat.digitChar d)) = some d) (n : Nat) :
    ∃ digits, ((Nat.toDigits b n).map shape).mapM digit? = some digits ∧ ofDigits b digits = n := by
  -- The last digit is the remainder, so the induction is on the quotient.
  induction n using Nat.strongRecOn with
  | _ n ih =>
    rw [Nat.toDigits_eq_if hb]
    split
    · rename_i hsmall
      exact ⟨[n], by simp [hdigit n hsmall], by simp [ofDigits]⟩
    · rename_i hlarge
      obtain ⟨digits, hread, hvalue⟩ := ih (n / b) (Nat.div_lt_self (by omega) hb)
      refine ⟨digits ++ [n % b], ?_, ?_⟩
      · simp [List.mapM_append, hread, hdigit (n % b) (Nat.mod_lt n (by omega))]
      · rw [ofDigits_concat, hvalue, Nat.div_add_mod']

theorem mapM_replicate_zero (hzero : digit? (shape '0') = some 0) (zeros : Nat) :
    ((List.replicate zeros '0').map shape).mapM digit? = some (List.replicate zeros 0) := by
  rw [List.map_replicate]
  induction zeros with
  | zero => rfl
  | succ zeros ih => simp [List.replicate_succ, List.mapM_cons, hzero, ih]

/-- A number is read back from its digits, with any number of zeros in front. -/
theorem readDigits?_toDigits (hb : 1 < b)
    (hdigit : ∀ d, d < b → digit? (shape (Nat.digitChar d)) = some d) (zeros n : Nat) :
    readDigits? b digit? ((List.replicate zeros '0' ++ Nat.toDigits b n).map shape) = some n := by
  obtain ⟨digits, hread, hvalue⟩ := exists_mapM_toDigits hb hdigit n
  have hzeros := mapM_replicate_zero (hdigit 0 (by omega)) zeros
  have hne : ((List.replicate zeros '0' ++ Nat.toDigits b n).map shape).isEmpty = false := by simp
  rw [readDigits?, hne, List.map_append, List.mapM_append, hzeros, hread]
  simp [ofDigits_replicate_append, hvalue]

end Reading

theorem hexPadded_eq (width n : Nat) :
    hexPadded width n = (List.replicate (width - (Nat.toDigits 16 n).length) '0' ++
      Nat.toDigits 16 n).map Char.toUpper := by
  rw [hexPadded, padZeros, hexNat, List.length_map, List.map_append, List.map_replicate]
  rfl

theorem readDigits?_decimalNat (n : Nat) :
    readDigits? 10 digitValue? (decimalNat n) = some n := by
  have hdigit : ∀ d : Fin 10, digitValue? (id (Nat.digitChar d)) = some d.val := by decide
  have hread := readDigits?_toDigits (by omega) (fun d hd => hdigit ⟨d, hd⟩) 0 n
  simpa [decimalNat] using hread

/-- A hexadecimal numeral is read back when it is folded to lower case. -/
theorem readDigits?_lower_hexPadded (width n : Nat) :
    readDigits? 16 hexValue? ((hexPadded width n).map Char.toLower) = some n := by
  have hdigit : ∀ d : Fin 16,
      hexValue? ((Char.toLower ∘ Char.toUpper) (Nat.digitChar d)) = some d.val := by decide
  rw [hexPadded_eq, List.map_map]
  exact readDigits?_toDigits (by omega) (fun d hd => hdigit ⟨d, hd⟩) _ n

/-- A hexadecimal numeral is read back as it stands. -/
theorem readDigits?_hexPadded (width n : Nat) :
    readDigits? 16 hexValue? (hexPadded width n) = some n := by
  have hdigit : ∀ d : Fin 16, hexValue? (Nat.digitChar d).toUpper = some d.val := by decide
  rw [hexPadded_eq]
  exact readDigits?_toDigits (by omega) (fun d hd => hdigit ⟨d, hd⟩) _ n

/-- A number that fits into a width takes exactly this width. -/
theorem length_hexPadded {width n : Nat} (hwidth : 0 < width) (hn : n < 16 ^ width) :
    (hexPadded width n).length = width := by
  have hfits : (Nat.toDigits 16 n).length ≤ width :=
    (Nat.length_toDigits_le_iff (by omega) hwidth).2 hn
  rw [hexPadded_eq, List.length_map, List.length_append, List.length_replicate]
  omega

theorem exists_of_mem_decimalNat {n : Nat} {c : Char} (hc : c ∈ decimalNat n) :
    ∃ d : Fin 10, c = Nat.digitChar d := by
  obtain ⟨d, hd, rfl⟩ := exists_digitChar_of_mem_toDigits (by omega) hc
  exact ⟨⟨d, hd⟩, rfl⟩

theorem exists_of_mem_hexPadded {width n : Nat} {c : Char} (hc : c ∈ hexPadded width n) :
    ∃ d : Fin 16, c = (Nat.digitChar d).toUpper := by
  rw [hexPadded_eq] at hc
  obtain ⟨digit, hdigit, rfl⟩ := List.mem_map.1 hc
  rcases List.mem_append.1 hdigit with hzero | hdigit
  · exact ⟨0, by rw [List.eq_of_mem_replicate hzero]; rfl⟩
  · obtain ⟨d, hd, rfl⟩ := exists_digitChar_of_mem_toDigits (by omega) hdigit
    exact ⟨⟨d, hd⟩, rfl⟩

theorem isWord_decimalNat (n : Nat) : IsWord (decimalNat n) := by
  have hplain : ∀ d : Fin 10, isPlain (Nat.digitChar d) = true := by decide
  refine ⟨by simp [decimalNat], fun c hc => ?_⟩
  obtain ⟨d, rfl⟩ := exists_of_mem_decimalNat hc
  exact hplain d

theorem isPlain_of_mem_hexPadded {width n : Nat} {c : Char} (hc : c ∈ hexPadded width n) :
    isPlain c = true := by
  have hplain : ∀ d : Fin 16, isPlain (Nat.digitChar d).toUpper = true := by decide
  obtain ⟨d, rfl⟩ := exists_of_mem_hexPadded hc
  exact hplain d

theorem isPlain_of_mem_hexSigned {width : Nat} {value : Int} {c : Char}
    (hc : c ∈ hexSigned width value) : isPlain c = true := by
  cases value with
  | ofNat n => exact isPlain_of_mem_hexPadded hc
  | negSucc n =>
    rcases List.mem_cons.1 hc with rfl | hc
    · decide
    · exact isPlain_of_mem_hexPadded hc

/-! ## What a reader of digits reads -/

/-- The text consists of digits of a base in lower case, most significant first, and this is the
number that they stand for. -/
def Spells (t : Text) (base value : Nat) : Prop :=
  ∃ digits : List Nat, digits ≠ [] ∧ (∀ d ∈ digits, d < base) ∧ t = digits.map Nat.digitChar ∧
    value = ofDigits base digits

theorem foldl_digits_lt {base : Nat} {digits : List Nat} (hdigits : ∀ d ∈ digits, d < base)
    (start : Nat) : digits.foldl (fun value digit => value * base + digit) start <
      (start + 1) * base ^ digits.length := by
  induction digits generalizing start with
  | nil => simp
  | cons d rest ih =>
    have hd := hdigits d List.mem_cons_self
    calc rest.foldl (fun value digit => value * base + digit) (start * base + d)
        < (start * base + d + 1) * base ^ rest.length :=
          ih (fun e he => hdigits e (List.mem_cons_of_mem d he)) _
      _ ≤ ((start + 1) * base) * base ^ rest.length :=
          Nat.mul_le_mul_right _ (by rw [Nat.add_mul]; omega)
      _ = (start + 1) * base ^ (d :: rest).length := by
          rw [List.length_cons, Nat.pow_succ, Nat.mul_assoc, Nat.mul_comm base]

/-- A number is below the power of its base with as many factors as it has digits. -/
theorem Spells.lt_pow {t : Text} {base value : Nat} (hspells : t.Spells base value) :
    value < base ^ t.length := by
  obtain ⟨digits, -, hdigits, rfl, rfl⟩ := hspells
  simpa [ofDigits] using foldl_digits_lt hdigits 0

theorem Spells.isFolded {t : Text} {base value : Nat} (hspells : t.Spells base value)
    (hbase : base ≤ 16) : t.IsFolded := by
  have hdigit : ∀ d : Fin 16, isPlain (Nat.digitChar d) = true ∧
      (Nat.digitChar d).toLower = Nat.digitChar d := by
    decide
  obtain ⟨digits, -, hdigits, rfl, -⟩ := hspells
  intro c hc
  obtain ⟨d, hd, rfl⟩ := List.mem_map.1 hc
  exact hdigit ⟨d, Nat.lt_of_lt_of_le (hdigits d hd) hbase⟩

theorem digitValue?_eq_some_iff {c : Char} {d : Nat} :
    digitValue? c = some d ↔ d < 10 ∧ c = Nat.digitChar d := by
  constructor
  · have hall : ∀ n : Fin 58, ∀ d ∈ digitValue? (Char.ofNat n), d < 10 ∧
        Char.ofNat n = Nat.digitChar d := by
      decide
    intro hd
    have hascii : c.toNat < 58 := by
      refine Nat.lt_of_not_le fun hlarge => ?_
      have hbeyond : ¬ c ≤ '9' := fun hle => absurd (Nat.le_trans hlarge hle) (by decide)
      simp [digitValue?, hbeyond] at hd
    have hc := hall ⟨c.toNat, hascii⟩ d
    rw [Char.ofNat_toNat] at hc
    exact hc hd
  · rintro ⟨hd, rfl⟩
    have hall : ∀ d : Fin 10, digitValue? (Nat.digitChar d) = some d.val := by decide
    exact hall ⟨d, hd⟩

theorem hexValue?_eq_some_iff {c : Char} {d : Nat} (hc : c.toLower = c) :
    hexValue? c = some d ↔ d < 16 ∧ c = Nat.digitChar d := by
  constructor
  · have hall : ∀ n : Fin 103, (Char.ofNat n).toLower = Char.ofNat n →
        ∀ d ∈ hexValue? (Char.ofNat n), d < 16 ∧ Char.ofNat n = Nat.digitChar d := by
      decide
    intro hd
    have hascii : c.toNat < 103 := by
      refine Nat.lt_of_not_le fun hlarge => ?_
      have hbeyond : ∀ last : Char, last.toNat < 103 → ¬ c ≤ last := fun last hlast hle =>
        absurd (Nat.le_trans hlarge hle) (Nat.not_le.2 hlast)
      simp [hexValue?, hbeyond '9' (by decide), hbeyond 'f' (by decide),
        hbeyond 'F' (by decide)] at hd
    have hfound := hall ⟨c.toNat, hascii⟩
    rw [Char.ofNat_toNat] at hfound
    exact hfound hc d hd
  · rintro ⟨hd, rfl⟩
    have hall : ∀ d : Fin 16, hexValue? (Nat.digitChar d) = some d.val := by decide
    exact hall ⟨d, hd⟩

section Digits

variable {base value : Nat} {digit? : Char → Option Nat} {t : Text}
  (hdigit : ∀ c ∈ t, ∀ d, digit? c = some d ↔ d < base ∧ c = Nat.digitChar d)
include hdigit

theorem mapM_eq_some_iff {digits : List Nat} : t.mapM digit? = some digits ↔
    (∀ d ∈ digits, d < base) ∧ t = digits.map Nat.digitChar := by
  induction t generalizing digits with
  | nil => cases digits <;> simp
  | cons c rest ih =>
    have hrest := @ih fun e he => hdigit e (List.mem_cons_of_mem c he)
    have hc := hdigit c List.mem_cons_self
    cases digits with
    | nil =>
      cases hd : digit? c <;> cases hds : rest.mapM digit? <;> simp [List.mapM_cons, hd, hds]
    | cons d others =>
      simp only [List.mapM_cons, Option.bind_eq_bind, Option.bind_eq_some_iff, hrest, hc,
        Option.pure_def, Option.some.injEq, List.cons.injEq, List.mem_cons, List.map_cons,
        forall_eq_or_imp]
      constructor
      · rintro ⟨_, ⟨hd, rfl⟩, _, ⟨hothers, rfl⟩, rfl, rfl⟩
        exact ⟨⟨hd, hothers⟩, rfl, rfl⟩
      · rintro ⟨⟨hd, hothers⟩, hhead, hrest⟩
        exact ⟨d, ⟨hd, hhead⟩, others, ⟨hothers, hrest⟩, rfl, rfl⟩

/-- Where a reader of digits knows exactly the digits of a base, it reads exactly what they
spell. -/
theorem readDigits?_eq_some_iff : readDigits? base digit? t = some value ↔ t.Spells base value := by
  have hdigits := fun digits => @mapM_eq_some_iff base digit? t hdigit digits
  rw [readDigits?]
  cases t with
  | nil => simp +contextual [Spells]
  | cons c rest =>
    simp only [List.isEmpty_cons, Bool.false_eq_true, if_false, Option.map_eq_some_iff, hdigits,
      Spells]
    constructor
    · rintro ⟨digits, ⟨hrange, htext⟩, rfl⟩
      refine ⟨digits, ?_, hrange, htext, rfl⟩
      rintro rfl
      cases htext
    · rintro ⟨digits, -, hrange, htext, rfl⟩
      exact ⟨digits, ⟨hrange, htext⟩, rfl⟩

end Digits

/-- A number spells itself in decimal. -/
theorem spells_decimalNat (n : Nat) : (decimalNat n).Spells 10 n :=
  (readDigits?_eq_some_iff fun _ _ _ => digitValue?_eq_some_iff).1 (readDigits?_decimalNat n)

/-- It spells itself in hexadecimal, when that is folded to lower case. -/
theorem spells_lower_hexPadded (width n : Nat) :
    Spells ((hexPadded width n).map Char.toLower) 16 n := by
  refine (readDigits?_eq_some_iff fun c hc _ => hexValue?_eq_some_iff ?_).1
    (readDigits?_lower_hexPadded width n)
  obtain ⟨digit, hdigit, rfl⟩ := List.mem_map.1 hc
  exact (toLower_of_isPlain (isPlain_of_mem_hexPadded hdigit)).2

end Chip8.Text
