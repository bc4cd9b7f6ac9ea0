/-
# Options

The options of `chip8kit` and of its commands, and the settings that they make.
-/

import Chip8.Command.Reading
import Chip8.Journal

namespace Chip8.Command

/-- The name of the program. -/
def programName : Text := "chip8kit".toList

/-- The version of the program. -/
def programVersion : Text := "0.1.0".toList

/-- The names of an option. -/
def optionNames (names : List String) : List Text := names.map String.toList

/-- The option that asks for help. -/
def helpForm {κ : Type} (key : κ) : OptionForm κ :=
  { key, names := optionNames ["-h", "--help"], summary := "show this help and exit" }

/-- The name of a file that an option is given, unless it is empty. -/
def fileName? (given : Given Text) : Option Text := given.value?.filter (!·.isEmpty)

/-- What an option is given, read by a rule, or the refusal of the option. -/
def accept {α : Type} (rule : Text → Except BadValue α) (given : Given Text) :
    Except Interruption (Given α) :=
  (given.read rule).mapError .badValue

/-! ## Options of the program -/

/-- The options in front of the command. -/
inductive GlobalOption where
  | help | version | verbose | quiet | logFile
  deriving DecidableEq, Repr

/-- The settings that hold for every command. -/
structure Globals where
  verbosity : Nat := 0
  quiet : Bool := false
  /-- the file that receives all events -/
  logFile : Option Text := none
  deriving DecidableEq, Repr

namespace Globals

/-- Takes an option in. -/
def apply (option : GlobalOption) (given : Given Text) (g : Globals) :
    Except Interruption Globals :=
  match option with
  | .help => .error .help
  | .version => .error .version
  | .verbose => .ok { g with verbosity := g.verbosity + 1 }
  | .quiet => .ok { g with quiet := true }
  | .logFile => .ok { g with logFile := fileName? given }

/-- The least level of the events that are shown. -/
def threshold (g : Globals) : Level :=
  if g.quiet then .error
  else match g.verbosity with
    | 0 => .warning
    | 1 => .info
    | _ => .debug

/-- The events that are shown. -/
def shown (g : Globals) (events : List Event) : List Event :=
  events.filter fun event => g.threshold.rank ≤ event.level.rank

end Globals

/-- The command line of the program; its operand is the command. -/
def mainGrammar : Grammar GlobalOption :=
  { program := programName
    summary := "CHIP-8 Toolkit: assemble, disassemble, run"
    options := [
      helpForm .help,
      { key := .version, names := optionNames ["--version"]
        summary := "show the version and exit" },
      { key := .verbose, names := optionNames ["-v", "--verbose"]
        summary := "show more events (-v, -vv)" },
      { key := .quiet, names := optionNames ["-q", "--quiet"], summary := "show errors only" },
      { key := .logFile, names := optionNames ["--log-file"], value := some "LOG_FILE".toList
        summary := "write all events to this file" }]
    operand := "command".toList
    operandSummary := "asm, disasm or run"
    takesRest := true }

/-! ## Options of the commands -/

/-- The command line of a command. -/
def commandGrammar {κ : Type} (name summary : String) (options : List (OptionForm κ))
    (operand operandSummary : String) : Grammar κ :=
  { program := programName ++ ' ' :: name.toList
    summary, options
    operand := operand.toList
    operandSummary }

/-- The options of `asm`. -/
inductive AssembleOption where
  | help | output | listing
  deriving DecidableEq, Repr

/-- The settings of `asm`. -/
structure AssembleSettings where
  /-- the file that receives the bytes -/
  output : Option Text := none
  /-- the listing is printed -/
  listing : Bool := false
  deriving DecidableEq, Repr

/-- Takes an option in. -/
def AssembleSettings.apply (option : AssembleOption) (given : Given Text)
    (s : AssembleSettings) : Except Interruption AssembleSettings :=
  match option with
  | .help => .error .help
  | .output => .ok { s with output := fileName? given }
  | .listing => .ok { s with listing := true }

/-- The command line of `asm`. -/
def assembleGrammar : Grammar AssembleOption :=
  commandGrammar "asm" "Assemble CHIP-8 source to a ROM image"
    [helpForm .help,
     { key := .output, names := optionNames ["-o", "--output"], value := some "OUTPUT".toList
       summary := "output ROM (default: input with .ch8)" },
     { key := .listing, names := optionNames ["--listing"], summary := "print the listing" }]
    "input" "input source file"

/-- The options of `disasm`. -/
inductive DisassembleOption where
  | help | output | all | listing
  deriving DecidableEq, Repr

/-- The settings of `disasm`. -/
structure DisassembleSettings where
  /-- the file that receives the text in place of the terminal -/
  output : Option Text := none
  /-- the first `NOP` does not end the text -/
  all : Bool := false
  /-- every word is shown with its address -/
  listing : Bool := false
  deriving DecidableEq, Repr

/-- Takes an option in. -/
def DisassembleSettings.apply (option : DisassembleOption) (given : Given Text)
    (s : DisassembleSettings) : Except Interruption DisassembleSettings :=
  match option with
  | .help => .error .help
  | .output => .ok { s with output := fileName? given }
  | .all => .ok { s with all := true }
  | .listing => .ok { s with listing := true }

/-- The command line of `disasm`. -/
def disassembleGrammar : Grammar DisassembleOption :=
  commandGrammar "disasm" "Disassemble a ROM image"
    [helpForm .help,
     { key := .output, names := optionNames ["-o", "--output"], value := some "OUTPUT".toList
       summary := "output file (default: the terminal)" },
     { key := .all, names := optionNames ["--all"], summary := "go on after the first NOP" },
     { key := .listing, names := optionNames ["--listing"]
       summary := "show the address and the bytes of every word" }]
    "input" "input ROM file"

/-- The options of `run`. -/
inductive RunOption where
  | help | speed | frames | seed | trace | breakpoint | noSleep | showDisplay | dump
  deriving DecidableEq, Repr

/-- The settings of `run`. -/
structure RunSettings where
  /-- instructions per second -/
  speed : Given Int := .value 500
  frames : Given Int := .value 600
  /-- the seed of the random bytes -/
  seed : Option (Given Int) := none
  /-- the trace is printed -/
  trace : Bool := false
  /-- where the run stops -/
  breakpoints : List (Given Int) := []
  /-- frames do not wait for the clock -/
  noSleep : Bool := false
  /-- the screen is printed -/
  showDisplay : Bool := false
  /-- where the dump of memory starts, if one is printed -/
  dump : Option (Given Int) := none
  deriving DecidableEq, Repr

/-- Takes an option in. -/
def RunSettings.apply (option : RunOption) (given : Given Text) (s : RunSettings) :
    Except Interruption RunSettings :=
  match option with
  | .help => .error .help
  | .speed => return { s with speed := ← accept speedValue given }
  | .frames => return { s with frames := ← accept integerValue given }
  | .seed => return { s with seed := some (← accept integerValue given) }
  | .trace => .ok { s with trace := true }
  | .breakpoint => return { s with breakpoints := s.breakpoints ++ [← accept addressValue given] }
  | .noSleep => .ok { s with noSleep := true }
  | .showDisplay => .ok { s with showDisplay := true }
  | .dump => return { s with dump := some (← accept addressValue given) }

/-- The command line of `run`. -/
def runGrammar : Grammar RunOption :=
  commandGrammar "run" "Run a ROM and show the final state of the machine"
    [helpForm .help,
     { key := .speed, names := optionNames ["--speed"], value := some "SPEED".toList
       summary := s!"clock speed in Hz or profile ({profileNames})" },
     { key := .frames, names := optionNames ["--frames"], value := some "FRAMES".toList
       summary := "frames to run at 60 Hz (default: 600)" },
     { key := .seed, names := optionNames ["--seed"], value := some "SEED".toList
       summary := "seed of the random bytes" },
     { key := .trace, names := optionNames ["--trace"], summary := "print an instruction trace" },
     { key := .breakpoint, names := optionNames ["--break"], value := some "ADDR".toList
       summary := "stop when PC reaches ADDR (hex)" },
     { key := .noSleep, names := optionNames ["--no-sleep"]
       summary := "run frames back to back instead of at 60 Hz" },
     { key := .showDisplay, names := optionNames ["--show-display"]
       summary := "print the final screen" },
     { key := .dump, names := optionNames ["--dump"], value := some "ADDR".toList
       summary := "print 64 bytes of memory from ADDR (hex)" }]
    "rom" "ROM file"

end Chip8.Command
