/-
# Emoji by name

A name between two colons stands for an emoji. A name holds no blanks, and its case does not
matter; a name that ends in `-text` or `-emoji` asks for one of the two presentations. Names are
looked for from left to right, and a colon belongs to one name at most: the closing colon of a name
opens no other, even if the name is not known and the text stays as it is.
-/

import Chip8.Text.EmojiTable
import Chip8.Text.Lowercase

namespace Chip8.Text

/-- A name without the ending that asks for a presentation, and the character that selects the
presentation. -/
def cutPresentation (name : Text) : Text × Text :=
  if "-text".toList.isSuffixOf name then (name.take (name.length - 5), ['\uFE0E'])
  else if "-emoji".toList.isSuffixOf name then (name.take (name.length - 6), ['\uFE0F'])
  else (name, [])

/-- The emoji that a name stands for, if the table has the name. -/
def emojiNamed? (table : List (Text × Text)) (name : Text) : Option Text :=
  let (stem, selector) := cutPresentation name
  (table.lookup (lower stem)).map (· ++ selector)

/-- The pieces of a text between its colons as one text, with emoji in the place of names. -/
def joinNamed (table : List (Text × Text)) : List Text → Text
  | piece :: name :: next :: rest =>
    if name.any isBlank then piece ++ ':' :: joinNamed table (name :: next :: rest)
    else
      let shown := match emojiNamed? table name with
        | some emoji => emoji
        | none => ':' :: name ++ [':']
      piece ++ shown ++ joinNamed table (next :: rest)
  | pieces => join [':'] pieces

/-- The text with emoji in the place of their names. -/
def withEmoji (t : Text) : Text := joinNamed emojiTable (cut (· == ':') t)

end Chip8.Text
