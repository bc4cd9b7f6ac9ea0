/-
# Text

Text is a list of characters, so that readers recurse on it and printers append to it. This module
holds what every reader shares: the blank characters and line ends of Unicode, trimming, and
cutting a text at marked characters. Joining the pieces of a cut gives the text back, less the
marks.
-/

namespace Chip8

/-- A text is the list of its characters. -/
abbrev Text := List Char

namespace Text

/-- A class of code points stored by its ascending borders: a code point belongs to it exactly
when an odd number of borders lies at or below it. -/
def withinBorders (borders : List Nat) (code : Nat) : Bool :=
  (borders.takeWhile (· ≤ code)).length % 2 == 1

/-- Blank characters: the white space of Unicode and the four information separators. -/
def isBlank (c : Char) : Bool :=
  let n := c.toNat
  (0x09 ≤ n && n ≤ 0x0D) || (0x1C ≤ n && n ≤ 0x20) || n == 0x85 || n == 0xA0 || n == 0x1680 ||
    (0x2000 ≤ n && n ≤ 0x200A) || n == 0x2028 || n == 0x2029 || n == 0x202F || n == 0x205F ||
    n == 0x3000

/-- Characters that end a line. A carriage return with a line feed after it is one line end. -/
def isLineEnd (c : Char) : Bool :=
  let n := c.toNat
  (0x0A ≤ n && n ≤ 0x0D) || (0x1C ≤ n && n ≤ 0x1E) || n == 0x85 || n == 0x2028 || n == 0x2029

/-- The text without its leading blanks. -/
def trimLeft (t : Text) : Text := t.dropWhile isBlank

/-- The text without its trailing blanks. -/
def trimRight (t : Text) : Text := (t.reverse.dropWhile isBlank).reverse

/-- The text without the blanks at its ends. -/
def trim (t : Text) : Text := trimRight (trimLeft t)

/-- The text without one line feed at its end. -/
def dropFinalLineFeed (t : Text) : Text := if t.getLast? == some '\n' then t.dropLast else t

/-- The pieces between the marked characters; there is one piece more than there are marks. -/
def cut (marked : Char → Bool) : Text → List Text
  | [] => [[]]
  | c :: rest =>
    if marked c then [] :: cut marked rest
    else match cut marked rest with
      | [] => [[c]]
      | piece :: pieces => (c :: piece) :: pieces

/-- The words of a text: its maximal runs of characters that are not blank. -/
def words (t : Text) : List Text := (cut isBlank t).filter (!·.isEmpty)

/-- The lines of a text. A line end closes a line, so a text that ends in one has no empty line
after it. -/
def lines : Text → List Text
  | [] => []
  | '\r' :: '\n' :: rest => [] :: lines rest
  | c :: rest =>
    if isLineEnd c then [] :: lines rest
    else match lines rest with
      | [] => [[c]]
      | line :: others => (c :: line) :: others

/-- Pieces with a separator between neighbours. -/
def join (separator : Text) (pieces : List Text) : Text := separator.intercalate pieces

/-- Blanks are added behind the text up to the width. -/
def padRight (width : Nat) (t : Text) : Text := t ++ List.replicate (width - t.length) ' '

/-- Blanks are added in front of the text up to the width. -/
def padLeft (width : Nat) (t : Text) : Text := List.replicate (width - t.length) ' ' ++ t

/-- A cut is never empty. -/
theorem cut_ne_nil (marked : Char → Bool) (t : Text) : cut marked t ≠ [] := by
  cases t with
  | nil => simp [cut]
  | cons c rest =>
    unfold cut
    split
    · simp
    · split <;> simp

/-- A text without marked characters is one piece. -/
theorem cut_eq_singleton (marked : Char → Bool) (t : Text) (hunmarked : ∀ c ∈ t, marked c = false) :
    cut marked t = [t] := by
  induction t with
  | nil => rfl
  | cons c rest ih =>
    have hhead : marked c = false := hunmarked c List.mem_cons_self
    have htail := ih fun d hd => hunmarked d (List.mem_cons_of_mem c hd)
    simp [cut, hhead, htail]

/-- A mark ends the first piece of what precedes it. -/
theorem cut_append_cons (marked : Char → Bool) (t rest : Text) (c : Char)
    (hunmarked : ∀ d ∈ t, marked d = false) (hmark : marked c = true) :
    cut marked (t ++ c :: rest) = t :: cut marked rest := by
  induction t with
  | nil => simp [cut, hmark]
  | cons d t ih =>
    have hhead : marked d = false := hunmarked d List.mem_cons_self
    have htail := ih fun e he => hunmarked e (List.mem_cons_of_mem d he)
    simp [cut, hhead, htail]

end Text

end Chip8
