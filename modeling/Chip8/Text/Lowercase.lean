/-
# Lower case

Folding a text to lower case. A character is replaced by its lower-case partner, one letter takes
two characters (`İ` becomes `i` and a combining dot), and a capital sigma at the end of a word
becomes `ς` instead of `σ`. Where the word ends is seen through marks and apostrophes, so the
folding of a sigma depends on both neighbourhoods.

The opposite direction is needed for one question only, whether a token spells an ASCII keyword,
and `asciiUpper?` answers it.
-/

import Chip8.Text.CaseTable

namespace Chip8.Text

/-- The lower-case partner of a character, or the character itself. ASCII is answered first. -/
def lowerChar (c : Char) : Char :=
  if c.toNat < 0x80 then c.toLower
  else match caseStretches.find? (·.covers c.toNat) with
    | some stretch => Char.ofNat (c.toNat + stretch.shift).toNat
    | none => c

/-- Word-final sigma looks through this character. -/
def isCaseIgnorable (c : Char) : Bool := withinBorders caseIgnorableBorders c.toNat

/-- The nearest character that sigma does not look through is a letter with case. -/
def startsCased (t : Text) : Bool :=
  match t.dropWhile isCaseIgnorable with
  | [] => false
  | c :: _ => withinBorders casedBorders c.toNat

/-- Folds a text of which `before` stands in front, nearest character first. -/
def lowerAfter (before : Text) : Text → Text
  | [] => []
  | c :: rest =>
    let folded : Text :=
      if c == 'Σ' then [if startsCased before && !startsCased rest then 'ς' else 'σ']
      else if c == 'İ' then ['i', '\u0307']
      else [lowerChar c]
    folded ++ lowerAfter (c :: before) rest

/-- The text in lower case. -/
def lower (t : Text) : Text := lowerAfter [] t

/-- The upper case of a character where that is ASCII: the ASCII letters, and the few other
letters and ligatures whose upper case is spelled with ASCII letters. -/
def asciiUpper? (c : Char) : Option Text :=
  if c.toNat < 0x80 then some [c.toUpper]
  else match c with
    | 'ß' => some ['S', 'S']
    | 'ı' => some ['I']
    | 'ſ' => some ['S']
    | 'ﬀ' => some ['F', 'F']
    | 'ﬁ' => some ['F', 'I']
    | 'ﬂ' => some ['F', 'L']
    | 'ﬃ' => some ['F', 'F', 'I']
    | 'ﬄ' => some ['F', 'F', 'L']
    | 'ﬅ' => some ['S', 'T']
    | 'ﬆ' => some ['S', 'T']
    | _ => none

/-- The upper case of the whole token, if it is ASCII. -/
def asciiUpper (t : Text) : Option Text := (t.mapM asciiUpper?).map List.flatten

end Chip8.Text
