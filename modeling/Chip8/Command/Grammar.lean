/-
# Command line grammars

How a list of arguments is taken apart. A grammar has options and one operand. An option goes by
short names of one letter and by long names; it may take a value, and it takes the value from the
same argument or from the next one. Short options may share an argument, also behind a `=`, and
long names may be abbreviated. After `--` every argument is a word.

Reading has two stages. `classify` tells what each argument is, and fails at an ambiguous
abbreviation before anything else is looked at. `scan` then turns the arguments into items, in the
order in which they take effect; where the arguments break the rules, a failure is the last item.
-/

import Chip8.Command.UsageError
import Chip8.Text.DecimalDigit

namespace Chip8.Command

/-- An option. -/
structure OptionForm (κ : Type) where
  key : κ
  names : List Text
  /-- what usage texts call its value, if it takes one -/
  value : Option Text := none
  summary : String

namespace OptionForm

variable {κ : Type}

/-- The option takes a value. -/
def takesValue (form : OptionForm κ) : Bool := form.value.isSome

/-- What messages call the option. -/
def label (form : OptionForm κ) : Text := Text.join ['/'] form.names

end OptionForm

/-- The options and the operand of a command line. -/
structure Grammar (κ : Type) where
  /-- what messages call the program -/
  program : Text
  summary : String
  options : List (OptionForm κ)
  /-- what messages call the operand -/
  operand : Text
  operandSummary : String
  /-- the operand takes all arguments after it, unread -/
  takesRest : Bool := false

/-- An option as an argument names it. -/
structure Mention (κ : Type) where
  form : OptionForm κ
  /-- the name in full -/
  name : Text
  /-- what stands behind the name in the argument, less the `=` in between -/
  attached : Option Text

/-- The name is a short one: a single letter behind a minus sign. -/
def isShortName : Text → Bool
  | ['-', letter] => letter != '-'
  | _ => false

/-- What an argument is. -/
inductive Token (κ : Type) where
  /-- a word: the operand, or the value of an option -/
  | word
  /-- the mark after which everything is a word -/
  | separator
  | option (mention : Mention κ)
  /-- it looks like an option but names none -/
  | unknown

/-- An argument, and what it is. -/
structure Argument (κ : Type) where
  text : Text
  token : Token κ

/-- What the arguments come to, one after the other. -/
inductive Item (κ : Type) where
  /-- an option and what it is given; it is blank if it takes no value -/
  | option (form : OptionForm κ) (given : Given Text)
  /-- the operand, and the arguments that it takes with it -/
  | operand (word : Text) (rest : List Text)
  /-- an argument that is left over -/
  | extra (argument : Text)
  /-- the rules are broken here -/
  | failure (error : UsageError)

/-- Decimal digits of any script, at least one. -/
def isNumeral (t : Text) : Bool := !t.isEmpty && t.all fun c => (Text.decimalValue? c).isSome

/-- The argument is a negative number: a minus sign and a numeral, which may have a fraction. -/
def isNegativeNumber : Text → Bool
  | '-' :: rest =>
    let digits := Text.dropFinalLineFeed rest
    isNumeral digits ||
      match digits.dropWhile fun c => (Text.decimalValue? c).isSome with
      | '.' :: fraction => isNumeral fraction
      | _ => false
  | _ => false

/-- The argument up to a first `=`, and what stands behind it. -/
def cutAssignment (argument : Text) : Text × Option Text :=
  match argument.dropWhile (· != '=') with
  | _ :: value => (argument.takeWhile (· != '='), some value)
  | [] => (argument, none)

namespace Grammar

variable {κ : Type}

/-- All names of options with the options they name, in order. -/
def names (g : Grammar κ) : List (Text × OptionForm κ) :=
  g.options.flatMap fun form => form.names.map fun name => (name, form)

/-- The option with a name. -/
def named? (g : Grammar κ) (name : Text) : Option (OptionForm κ) := g.names.lookup name

/-- The options that an argument may mean if it is no name in full. A long name may be abbreviated.
A short name may have letters after it. -/
def candidates (g : Grammar κ) (argument : Text) : List (Mention κ) :=
  match argument with
  | '-' :: '-' :: _ =>
    let (stem, attached) := cutAssignment argument
    (g.names.filter fun (name, _) => stem.isPrefixOf name).map fun (name, form) =>
      { form, name, attached }
  | '-' :: letter :: rest =>
    (g.names.filter fun (name, _) => name == ['-', letter]).map fun (name, form) =>
      { form, name, attached := some rest }
  | _ => []

/-- The option that an argument names in full, alone or with a value after `=`. -/
def mention? (g : Grammar κ) (argument : Text) : Option (Mention κ) :=
  match g.named? argument with
  | some form => some { form, name := argument, attached := none }
  | none =>
    let (name, attached) := cutAssignment argument
    (g.named? name).map fun form => { form, name, attached }

/-- What an argument in front of `--` is. One that names no option is a word if it is a negative
number or holds a space. -/
def token (g : Grammar κ) (argument : Text) : Except UsageError (Token κ) :=
  match argument with
  | '-' :: _ :: _ =>
    match g.mention? argument with
    | some mention => .ok (.option mention)
    | none =>
      match g.candidates argument with
      | [] =>
        if isNegativeNumber argument || argument.contains ' ' then .ok .word else .ok .unknown
      | [mention] => .ok (.option mention)
      | several => .error (.ambiguous argument (several.map Mention.name))
  | _ => .ok .word

/-- What each argument is. -/
def classify (g : Grammar κ) : List Text → Except UsageError (List (Argument κ))
  | [] => .ok []
  | text :: rest =>
    if text = ['-', '-'] then
      .ok ({ text, token := .separator } :: rest.map fun text => { text, token := .word })
    else do
      let token ← g.token text
      return { text, token } :: (← g.classify rest)

/-- The items of one argument, and the option at its end that still lacks its value. -/
structure Expansion (κ : Type) where
  items : List (Item κ)
  awaiting : Option (OptionForm κ) := none

/-- An option with nothing behind its name. -/
def expandBare (form : OptionForm κ) : Expansion κ :=
  if form.takesValue then { items := [], awaiting := some form }
  else { items := [.option form .blank] }

/-- An option with text behind its name. The text is the value of an option that takes one. Behind
the short name of another option its letters are the short names of further options. -/
def expandAttached (g : Grammar κ) (form : OptionForm κ) (short : Bool) :
    Text → Except UsageError (Expansion κ)
  | [] =>
    if form.takesValue then .ok { items := [.option form (.value [])] }
    else .error (.unexpectedValue form.label [])
  | letter :: rest =>
    if form.takesValue then .ok { items := [.option form (.ofAttached (letter :: rest))] }
    else match if short then g.named? ['-', letter] else none with
      | none => .error (.unexpectedValue form.label (letter :: rest))
      | some next => do
        let expansion ←
          if rest.isEmpty then pure (expandBare next) else g.expandAttached next true rest
        return { expansion with items := .option form .blank :: expansion.items }

/-- The items of an argument that names an option. -/
def expand (g : Grammar κ) (mention : Mention κ) : Except UsageError (Expansion κ) :=
  match mention.attached with
  | none => .ok (expandBare mention.form)
  | some text => g.expandAttached mention.form (isShortName mention.name) text

/-- How far reading has come with the operand. -/
inductive Phase where
  /-- the operand has not come yet -/
  | missing
  /-- the last argument was the operand -/
  | arrived
  /-- the operand came earlier -/
  | past
  deriving DecidableEq

/-- The phase after an argument that is not the operand. -/
def Phase.next : Phase → Phase
  | .missing => .missing
  | .arrived | .past => .past

/-- The items of the arguments from a phase on. A `--` next to the operand belongs to it. -/
def scan (g : Grammar κ) : Phase → List (Argument κ) → List (Item κ)
  | _, [] => []
  | phase, argument :: rest =>
    match argument.token with
    | .unknown => .extra argument.text :: g.scan phase.next rest
    | .option mention =>
      match g.expand mention with
      | .error error => [.failure error]
      | .ok { items, awaiting := none } => items ++ g.scan phase.next rest
      | .ok { items, awaiting := some form } =>
        match rest with
        | { text, token := .word } :: others =>
          items ++ .option form (.value text) :: g.scan phase.next others
        | _ => [.failure (.missingValue form.label)]
    | .word =>
      match phase with
      | .missing =>
        if g.takesRest then [.operand argument.text (rest.map Argument.text)]
        else .operand argument.text [] :: g.scan .arrived rest
      | _ => .extra argument.text :: g.scan .past rest
    | .separator =>
      match phase with
      | .missing =>
        match rest with
        | [] => [.extra argument.text]
        | next :: others =>
          if g.takesRest then [.operand argument.text (rest.map Argument.text)]
          else .operand next.text [] :: g.scan .past others
      | .arrived => g.scan .past rest
      | .past => .extra argument.text :: g.scan .past rest

/-- What the arguments come to. -/
def items (g : Grammar κ) (arguments : List Text) : List (Item κ) :=
  match g.classify arguments with
  | .ok classified => g.scan .missing classified
  | .error error => [.failure error]

end Grammar

end Chip8.Command
