/-
# Values of options

What an option of a command line is given, and how words become numbers. Counts and seeds are
decimal integers, addresses are hexadecimal with an optional `0x` or `$` in front, and a clock
speed is a number of instructions per second or the name of a profile. A value may also be left
blank; what needs it then finds none.
-/

import Chip8.Config
import Chip8.Text.Integer
import Chip8.Text.Quoted

namespace Chip8.Command

/-- What an option is given. -/
inductive Given (α : Type) where
  | value (a : α)
  /-- the option has no value -/
  | blank
  deriving DecidableEq, Repr

namespace Given

variable {α β ε : Type}

/-- The value, if there is one. -/
def value? : Given α → Option α
  | .value a => some a
  | .blank => none

/-- What an option is given by the text behind its name. The mark `--` gives nothing. -/
def ofAttached (t : Text) : Given Text := if t = ['-', '-'] then .blank else .value t

/-- Reads the value if there is one. -/
def read (f : α → Except ε β) : Given α → Except ε (Given β)
  | .value a => (f a).map .value
  | .blank => .ok .blank

end Given

/-- A text that is no hexadecimal integer. -/
structure NotHexadecimal where
  digits : Text
  deriving DecidableEq, Repr

/-- The greatest length of a quoted text in the wording of the error. -/
def quotedLimit : Nat := 200

/-- The wording of the error. -/
def NotHexadecimal.message (e : NotHexadecimal) : Text :=
  "invalid literal for int() with base 16: ".toList ++ (Text.quoted e.digits).take quotedLimit

/-- An address without the mark `$`. -/
def dropDollar : Text → Text
  | '$' :: digits => digits
  | digits => digits

/-- The address that a word stands for. -/
def readAddress (word : Text) : Except NotHexadecimal Int :=
  let digits := dropDollar (Text.trim word)
  match Text.readInteger? 16 digits with
  | some address => .ok address
  | none => .error ⟨digits⟩

/-- Why a word is no clock speed. -/
inductive BadSpeed where
  /-- neither a number nor the name of a profile -/
  | unknown
  /-- less than one instruction in a frame -/
  | tooLow
  deriving DecidableEq, Repr

/-- The wording of the error. -/
def BadSpeed.message : BadSpeed → String
  | .unknown => s!"expected Hz or one of: {profileNames}"
  | .tooLow => s!"clock speed must be at least {frameRate} Hz"

/-- The clock speed that a word stands for. Names of profiles come first. -/
def readSpeed (word : Text) : Except BadSpeed Int :=
  match speedProfiles.lookup (String.ofList word) with
  | some speed => .ok speed
  | none =>
    match Text.readInteger? 10 word with
    | none => .error .unknown
    | some speed => if speed < frameRate then .error .tooLow else .ok speed

/-- Why the value of an option is refused. -/
inductive BadValue where
  | notInteger (word : Text)
  | notAddress (word : Text)
  | badSpeed (reason : BadSpeed)
  deriving DecidableEq, Repr

/-- The wording of the refusal. -/
def BadValue.message : BadValue → Text
  | .notInteger word => "invalid int value: ".toList ++ Text.quoted word
  | .notAddress word => "invalid _parse_hex value: ".toList ++ Text.quoted word
  | .badSpeed reason => reason.message.toList

/-- The integer that is the value of an option. -/
def integerValue (word : Text) : Except BadValue Int :=
  match Text.readInteger? 10 word with
  | some n => .ok n
  | none => .error (.notInteger word)

/-- The address that is the value of an option. -/
def addressValue (word : Text) : Except BadValue Int :=
  (readAddress word).mapError fun _ => .notAddress word

/-- The clock speed that is the value of an option. -/
def speedValue (word : Text) : Except BadValue Int := (readSpeed word).mapError .badSpeed

end Chip8.Command
