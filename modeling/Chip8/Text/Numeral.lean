/-
# Numerals

Writing numbers in decimal and in upper-case hexadecimal, padded with zeros, and reading digits
back. A minus sign counts towards the width of a padded numeral.
-/

import Chip8.Text.Basic

namespace Chip8.Text

/-- A number in decimal. -/
def decimalNat (n : Nat) : Text := Nat.toDigits 10 n

/-- An integer in decimal. -/
def decimal : Int → Text
  | .ofNat n => decimalNat n
  | .negSucc n => '-' :: decimalNat (n + 1)

/-- A number in upper-case hexadecimal. -/
def hexNat (n : Nat) : Text := (Nat.toDigits 16 n).map Char.toUpper

/-- Zeros are added in front of the digits up to the width. -/
def padZeros (width : Nat) (t : Text) : Text := List.replicate (width - t.length) '0' ++ t

/-- A number in hexadecimal with at least `width` digits. -/
def hexPadded (width n : Nat) : Text := padZeros width (hexNat n)

/-- An integer in hexadecimal; the sign takes one place of the width. -/
def hexSigned (width : Nat) : Int → Text
  | .ofNat n => hexPadded width n
  | .negSucc n => '-' :: hexPadded (width - 1) (n + 1)

/-- A byte as two hexadecimal digits. -/
def hexByte (b : UInt8) : Text := hexPadded 2 b.toNat

/-- Bytes as pairs of hexadecimal digits with blanks between them. -/
def hexBytes (bytes : List UInt8) : Text := join [' '] (bytes.map hexByte)

/-- The value of a decimal digit. -/
def digitValue? (c : Char) : Option Nat :=
  if '0' ≤ c && c ≤ '9' then some (c.toNat - 48) else none

/-- The value of a hexadecimal digit of either case. -/
def hexValue? (c : Char) : Option Nat :=
  if '0' ≤ c && c ≤ '9' then some (c.toNat - 48)
  else if 'a' ≤ c && c ≤ 'f' then some (c.toNat - 87)
  else if 'A' ≤ c && c ≤ 'F' then some (c.toNat - 55)
  else none

/-- The number that digits stand for, most significant first. -/
def ofDigits (base : Nat) (digits : List Nat) : Nat :=
  digits.foldl (fun value digit => value * base + digit) 0

/-- The number that one or more digits of a base spell. -/
def readDigits? (base : Nat) (digit? : Char → Option Nat) (t : Text) : Option Nat :=
  if t.isEmpty then none else (t.mapM digit?).map (ofDigits base)

end Chip8.Text
