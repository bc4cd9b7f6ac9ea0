/-
# Reading instructions

A mnemonic is read by folding it to lower case and cutting it into words. The first word names the
mnemonic; the shape of the others selects one of the formats that share it. Register tokens select
the register form, keywords the form with that keyword, and anything else the form with a number.

Two kinds of failure are kept apart. A `Rejection` says what is wrong with the text, and the
assembler collects it. A `DigitLimit` is a numeral beyond the bound on decimal digits, and it stops
the assembler at once.
-/

import Chip8.Instruction.Format
import Chip8.Text.Integer
import Chip8.Text.Lowercase

namespace Chip8

/-- A numeral goes beyond the greatest number of decimal digits. -/
inductive DigitLimit where
  /-- a numeral with so many digits was to be read -/
  | reading (digits : Nat)
  /-- a number was to be written -/
  | writing
  deriving DecidableEq, Repr

/-- The wording of the limit. -/
def DigitLimit.message (bound : DigitLimit) : String :=
  let detail := match bound with
    | .reading digits => s!": value has {digits} digits"
    | .writing => ""
  s!"Exceeds the limit ({Text.maxDecimalDigits} digits) for integer string conversion" ++ detail ++
    "; use sys.set_int_max_str_digits() to increase the limit"

/-- What is wrong with a statement. -/
inductive Rejection where
  /-- there is no mnemonic -/
  | empty
  /-- no instruction has this mnemonic -/
  | unknown
  /-- every format has more operands; the number of the first missing one -/
  | missingOperand (position : Nat)
  /-- every format has fewer operands -/
  | tooManyOperands (count : Nat)
  /-- a register was expected -/
  | notRegister (token : Text)
  /-- a keyword was expected -/
  | notKeyword (expected : Keyword) (token : Text)
  /-- no format of the mnemonic fits -/
  | noFormat (mnemonic : Text)
  /-- a number was expected -/
  | notNumber (token : Text)
  /-- the number does not fit its field -/
  | tooLarge (value width : Nat)
  /-- a data statement without data -/
  | noBytes
  /-- a value of a data statement beyond one byte -/
  | notByte (token : Text)
  deriving DecidableEq, Repr

/-- The wording of the rejection. -/
def Rejection.message : Rejection → String
  | .empty => "Empty instruction"
  | .unknown => "Unknown instruction"
  | .missingOperand position => s!"Missing argument {position}"
  | .tooManyOperands count => s!"Too many arguments ({count})"
  | .notRegister token => s!"Invalid register name {String.ofList token}"
  | .notKeyword expected token =>
    s!"Expected {String.ofList expected.text}, got {String.ofList token}"
  | .noFormat mnemonic => s!"Invalid operands for {String.ofList mnemonic}"
  | .notNumber token => s!"Couldn't parse value {String.ofList token}"
  | .tooLarge value width => s!"Value {value} out of range for {width}-bit immediate"
  | .noBytes => "BYTES needs at least one value"
  | .notByte token => s!"Value {String.ofList token} is not a single byte"

/-- Why a statement is not read. -/
inductive ReadError where
  | rejected (reason : Rejection)
  | limit (limit : DigitLimit)
  deriving DecidableEq, Repr

/-- What is reported of a text that no instruction is read from. -/
inductive ReadFailure where
  /-- the text as it was given, and what is wrong with it -/
  | refused (text : Text) (reason : Rejection)
  | limit (bound : DigitLimit)
  deriving DecidableEq, Repr

/-- The wording of the report. -/
def ReadFailure.message : ReadFailure → String
  | .refused text reason => s!"{reason.message}: '{String.ofList text}'"
  | .limit bound => bound.message

/-- The report on a text that is not read. -/
def ReadError.failure (text : Text) : ReadError → ReadFailure
  | .rejected reason => .refused text reason
  | .limit bound => .limit bound

namespace Operand

/-- The register that a token names: `v` and one hexadecimal digit, of either case. -/
def register? (token : Text) : Option Reg :=
  match Text.dropFinalLineFeed (Text.lower token) with
  | ['v', digit] => (Text.hexValue? digit).map fourBits
  | _ => none

/-- The token names a register. -/
def isRegister (token : Text) : Bool := (register? token).isSome

/-- The token spells a keyword in some case. -/
def isKeyword (token : Text) : Bool :=
  match Text.asciiUpper token with
  | some upper => Keyword.all.any (·.text == upper)
  | none => false

/-- The register that a token names, or the rejection. -/
def readRegister (token : Text) : Except ReadError Reg :=
  match register? token with
  | some r => .ok r
  | none => .error (.rejected (.notRegister token))

/-- The value of a numeral, if the token is one: digits after a `0x` mark, or decimal digits. The
bound on decimal digits counts leading zeros. -/
def numeral? (token : Text) : Option (Except DigitLimit Nat) :=
  let folded := Text.dropFinalLineFeed (Text.lower token)
  match folded with
  | '0' :: 'x' :: digits => (Text.readDigits? 16 Text.hexValue? digits).map .ok
  | _ => (Text.readDigits? 10 Text.digitValue? folded).map fun value =>
      if folded.length > Text.maxDecimalDigits then .error (.reading folded.length) else .ok value

/-- The number of at most `width` bits that a token stands for. A number that is too large is shown
in the rejection, so it meets the bound on decimal digits there. -/
def readNumber (token : Text) (width : Nat) : Except ReadError Nat :=
  match numeral? token with
  | none => .error (.rejected (.notNumber token))
  | some (.error limit) => .error (.limit limit)
  | some (.ok value) =>
    if value < 1 <<< width then .ok value
    else if Nat.pow 10 Text.maxDecimalDigits ≤ value then .error (.limit .writing)
    else .error (.rejected (.tooLarge value width))

end Operand

namespace Slot

/-- The token has the shape that the slot expects. -/
def accepts (slot : Slot) (token : Text) : Bool :=
  match slot with
  | .keyword k => token == k.lowerText
  | .field f =>
    if f.isRegister then Operand.isRegister token
    else !Operand.isRegister token && !Operand.isKeyword token

/-- The plain fault of a token in the slot, where the slot alone shows it. -/
def complaint? (slot : Slot) (token : Text) : Option Rejection :=
  match slot with
  | .keyword k => if token == k.lowerText then none else some (.notKeyword k token)
  | .field f =>
    if f.isRegister && !Operand.isRegister token then some (.notRegister token) else none

/-- The field with the value of the token; a keyword slot has no value. -/
def read (slot : Slot) (token : Text) : Except ReadError (Option (Field × Nat)) :=
  match slot with
  | .keyword _ => .ok none
  | .field f =>
    if f.isRegister then (Operand.readRegister token).map fun r => some (f, r)
    else (Operand.readNumber token f.width).map fun value => some (f, value)

end Slot

namespace Format

/-- The operand tokens have the shape of the format. -/
def accepts (format : Format) (tokens : List Text) : Bool :=
  format.slots.length == tokens.length &&
    (format.slots.zip tokens).all fun (slot, token) => slot.accepts token

end Format

namespace Instruction

/-- The rows of a table that have a mnemonic given in lower case. -/
def candidates (rows : List (Opcode × Format)) (mnemonic : Text) : List (Opcode × Format) :=
  rows.filter fun (_, format) => format.mnemonic.map Char.toLower == mnemonic

/-- The least and the greatest number of operands among the formats. -/
def arityBounds (formats : List (Opcode × Format)) : Nat × Nat :=
  let arities := formats.map fun (_, format) => format.slots.length
  (arities.foldl min (arities.headD 0), arities.foldl max 0)

/-- Why no format of a mnemonic fits the tokens. A single format of the right length is explained
by its first slot that complains. -/
def explain (formats : List (Opcode × Format)) (mnemonic : Text) (tokens : List Text) :
    Rejection :=
  let (least, greatest) := arityBounds formats
  if tokens.length < least then .missingOperand (tokens.length + 1)
  else if greatest < tokens.length then .tooManyOperands tokens.length
  else
    let general := Rejection.noFormat (mnemonic.map Char.toUpper)
    match formats.filter fun (_, format) => format.slots.length == tokens.length with
    | [(_, format)] =>
      ((format.slots.zip tokens).findSome? fun (slot, token) => slot.complaint? token).getD general
    | _ => general

/-- The values of the slots, from left to right; the first token that cannot be read decides. -/
def readSlots : List Slot → List Text → Except ReadError (List (Field × Nat))
  | slot :: slots, token :: tokens => do
    let value ← slot.read token
    let values ← readSlots slots tokens
    return value.toList ++ values
  | _, _ => .ok []

/-- The words of a mnemonic: trimmed, in lower case, less one final semicolon. -/
def foldedWords (t : Text) : List Text :=
  let folded := Text.lower (Text.trim t)
  Text.words (if folded.getLast? == some ';' then folded.dropLast else folded)

/-- The instruction that a text stands for in a language with these rows. -/
def readBy (rows : List (Opcode × Format)) (t : Text) : Except ReadError Instruction :=
  match foldedWords t with
  | [] => .error (.rejected .empty)
  | mnemonic :: tokens =>
    match candidates rows mnemonic with
    | [] => .error (.rejected .unknown)
    | formats =>
      match formats.find? fun (_, format) => format.accepts tokens with
      | none => .error (.rejected (explain formats mnemonic tokens))
      | some (op, format) => do
        let values ← readSlots format.slots tokens
        return op.build fun f => (values.lookup f).getD 0

/-- The instruction that a text stands for. -/
def read (t : Text) : Except ReadError Instruction := readBy Opcode.table t

/-- The instruction that a text stands for, or the report on the text. -/
def parse (t : Text) : Except ReadFailure Instruction := (read t).mapError (·.failure t)

end Instruction

end Chip8
