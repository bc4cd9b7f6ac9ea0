/-
# Quoted text and bytes

The form in which messages show a text or a block of bytes that the user gave: in single quotes,
or in double quotes if the text holds single quotes and no double ones. A backslash, the quote
itself and the characters that do not print are written with a backslash.
-/

import Chip8.Text.Numeral
import Chip8.Text.Printable

namespace Chip8.Text

/-- The quote that encloses a text with these characters. -/
def quoteFor (hasSingle hasDouble : Bool) : Char := if hasSingle && !hasDouble then '"' else '\''

/-- A number in lower-case hexadecimal with at least `width` digits. -/
def lowerHexPadded (width n : Nat) : Text := padZeros width (Nat.toDigits 16 n)

/-- A backslash form that both texts and bytes use, if the character has one. -/
def shortEscape? (quote c : Char) : Option Text :=
  if c == quote || c == '\\' then some ['\\', c]
  else if c == '\t' then some ['\\', 't']
  else if c == '\n' then some ['\\', 'n']
  else if c == '\r' then some ['\\', 'r']
  else none

/-- A character inside the quotes. One that does not print shows its code point, in two, four or
eight digits. -/
def escapeChar (quote c : Char) : Text :=
  match shortEscape? quote c with
  | some form => form
  | none =>
    if isPrintable c then [c]
    else if c.toNat < 0x100 then ['\\', 'x'] ++ lowerHexPadded 2 c.toNat
    else if c.toNat < 0x10000 then ['\\', 'u'] ++ lowerHexPadded 4 c.toNat
    else ['\\', 'U'] ++ lowerHexPadded 8 c.toNat

/-- The text in quotes. -/
def quoted (t : Text) : Text :=
  let quote := quoteFor (t.contains '\'') (t.contains '"')
  [quote] ++ t.flatMap (escapeChar quote) ++ [quote]

/-- A byte inside the quotes: printable ASCII as itself, any other by its value. -/
def escapeByte (quote : Char) (b : UInt8) : Text :=
  let c := Char.ofNat b.toNat
  match shortEscape? quote c with
  | some form => form
  | none => if 0x20 ≤ b && b < 0x7F then [c] else ['\\', 'x'] ++ lowerHexPadded 2 b.toNat

/-- Bytes in quotes, with the mark `b` in front. -/
def quotedBytes (bytes : List UInt8) : Text :=
  let quote := quoteFor (bytes.contains 0x27) (bytes.contains 0x22)
  ['b', quote] ++ bytes.flatMap (escapeByte quote) ++ [quote]

end Chip8.Text
