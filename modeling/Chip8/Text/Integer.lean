/-
# Integers as users write them

The free form of integers on a command line: blanks around, a sign, an optional `0x` mark in base
sixteen, digits of any script, single underscores between digits. Decimal digits are bounded in
number, and so is the writing of an integer in decimal; `maxDecimalDigits` is that bound.
-/

import Chip8.Text.Numeral
import Chip8.Text.DecimalDigit

namespace Chip8.Text

/-- The greatest number of decimal digits that is read or written. -/
def maxDecimalDigits : Nat := 4300

/-- Digits and blanks of other scripts become their ASCII partners. -/
def toAsciiDigit (c : Char) : Char :=
  if c.toNat < 0x80 then c
  else if isBlank c then ' '
  else match decimalValue? c with
    | some value => Nat.digitChar value
    | none => c

/-- The blanks that may stand around an integer once other scripts have been folded. -/
def isAsciiBlank (c : Char) : Bool := c == ' ' || (0x09 ≤ c.toNat && c.toNat ≤ 0x0D)

/-- The digits of an integer: runs of digits with single underscores between them. -/
def digitRuns? (base : Nat) (t : Text) : Option (List Nat) := do
  let runs ← (cut (· == '_') t).mapM fun run =>
    if run.isEmpty then none
    else run.mapM fun c => (hexValue? c).filter (· < base)
  return runs.flatten

/-- The text without the mark of base sixteen; one underscore may follow the mark. -/
def dropBaseMark (base : Nat) (t : Text) : Text :=
  match base, t with
  | 16, '0' :: mark :: rest =>
    if mark == 'x' || mark == 'X' then
      match rest with
      | '_' :: digits => digits
      | digits => digits
    else t
  | _, _ => t

/-- The number that unsigned digits of a base stand for. -/
def readMagnitude? (base : Nat) (t : Text) : Option Nat := do
  let digits ← digitRuns? base (dropBaseMark base t)
  if base == 10 && digits.length > maxDecimalDigits then none
  else return ofDigits base digits

/-- The integer that the text stands for in base ten or sixteen. -/
def readInteger? (base : Nat) (t : Text) : Option Int :=
  let folded := (t.map toAsciiDigit).dropWhile isAsciiBlank
  match (folded.reverse.dropWhile isAsciiBlank).reverse with
  | '-' :: rest => (readMagnitude? base rest).map fun n => -(n : Int)
  | '+' :: rest => (readMagnitude? base rest).map fun n => (n : Int)
  | rest => (readMagnitude? base rest).map fun n => (n : Int)

end Chip8.Text
