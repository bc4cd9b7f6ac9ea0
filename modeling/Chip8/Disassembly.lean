/-
# Disassembly

Bytes are read two at a time, as a row of instruction words; a last odd byte is left out. The text
form joins the instructions with `;` and a line end, so the assembler reads it back. The listing
walks through the bytes on its own and shows every word with its address.
-/

import Chip8.Journal

namespace Chip8.Disassembly

/-- The instructions in a row of bytes, two bytes each, either all or those in front of the first
`NOP`. -/
def disassemble : List UInt8 → Bool → List Instruction
  | high :: low :: rest, stopAtNop =>
    let i := decode (wordOfBytes high low)
    if stopAtNop && i == .nop then [] else i :: disassemble rest stopAtNop
  | _, _ => []

/-- The report on a disassembly that stopped early. -/
def events (bytes : List UInt8) (stopAtNop : Bool) : List Event :=
  let shown := disassemble bytes stopAtNop
  if shown.length < (disassemble bytes false).length then
    [.sentinel (Instruction.size * shown.length)]
  else []

/-- The instructions as source text. -/
def text (is : List Instruction) : Text := Text.join [';', '\n'] (is.map Instruction.text)

/-- The row of a word at an address. -/
def row (address : Int) (word : Nat) : Text :=
  ['0', 'x'] ++ Text.hexSigned 3 address ++ [':', ' '] ++ Text.hexPadded 4 word ++ [' ', ' '] ++
    (decode word).text

/-- The rows of a row of bytes from an address on, one for every two bytes. -/
def rowsFrom (address : Int) : List UInt8 → List Text
  | high :: low :: rest =>
    row address (wordOfBytes high low) :: rowsFrom (address + Instruction.size) rest
  | _ => []

/-- Every word of the bytes with its address and its instruction. -/
def listing (bytes : List UInt8) (base : Int) : Text := Text.join ['\n'] (rowsFrom base bytes)

end Chip8.Disassembly
