/-
# Replies

What a task makes of the bytes of its file, as a value: the text to print, the file to save, the
complaints, the events, and how the program is to end. A reply saves a file only together with the
notice that follows when the file has been written, and one that complains saves none. The final
state of a run is laid out by a console; no other reply looks at it.
-/

import Chip8.Assembler
import Chip8.Command.Console
import Chip8.Command.Outcome
import Chip8.Command.Path
import Chip8.Disassembly
import Chip8.Frame.Loop
import Chip8.Memory.Dump
import Chip8.Random.Twister

namespace Chip8.Command

/-- A file to save. -/
structure Save where
  path : Text
  content : List UInt8
  /-- what is printed when the file has been written -/
  notice : Text
  deriving DecidableEq, Repr

/-- What a task comes to. -/
structure Reply where
  /-- what is printed before the file is saved -/
  output : Text := []
  /-- what is printed as complaints -/
  errors : Text := []
  save : Option Save := none
  events : List Event := []
  /-- the frames that wait for the clock -/
  pacedFrames : Nat := 0
  outcome : Outcome := .status 0
  deriving DecidableEq, Repr

/-- The text as a line. -/
def asLine (t : Text) : Text := t ++ ['\n']

/-- Texts as lines. -/
def asLines (ts : List Text) : Text := ts.flatMap asLine

/-- The text of a UTF-8 file, if it is one. -/
def decodeText? (content : List UInt8) : Option Text :=
  (String.fromUTF8? ⟨content.toArray⟩).map String.toList

/-- A text in UTF-8. -/
def encodeText (t : Text) : List UInt8 := (String.ofList t).toUTF8.toList

/-- The reply that complains and fails. -/
def complain (lines : List Text) : Reply := { errors := asLines lines, outcome := .status 1 }

/-- The complaint about a problem. -/
def errorLine (problem : Text) : Text := "Error: ".toList ++ problem

/-- The notice that bytes have been written to a file. -/
def writtenNotice (work : String) (size : Nat) (path : Text) : Text :=
  asLine (s!"{work} {size} bytes -> ".toList ++ path)

/-! ## Assembling -/

/-- The file that receives the bytes of a source. -/
def AssembleSettings.target (s : AssembleSettings) (input : Text) : Text :=
  s.output.getD (Path.withoutExtension input ++ ".ch8".toList)

/-- The reply to a source that is not assembled. -/
def refusal : AssemblyError → Reply
  | .limit bound => { outcome := .broken (.limit bound) }
  | error =>
    if error.faults.isEmpty then complain [("Assembly error: " ++ error.message).toList]
    else complain (error.faults.map fun fault => fault.report.toList)

/-- The reply to `asm` on a source. -/
def AssembleSettings.replyToSource (s : AssembleSettings) (input source : Text) : Reply :=
  let events := Program.assemblyEvents programStart source
  match Program.assemble programStart source with
  | .error error => { refusal error with events }
  | .ok program =>
    let bytes := program.bytes
    let path := s.target input
    { output := if s.listing then asLine program.listing else []
      save := some { path, content := bytes, notice := writtenNotice "Assembled" bytes.length path }
      events }

/-- The reply to `asm`. -/
def AssembleSettings.reply (s : AssembleSettings) (input : Text) (content : List UInt8) : Reply :=
  match decodeText? content with
  | none => complain [errorLine (input ++ ": not valid UTF-8".toList)]
  | some source => s.replyToSource input source

/-! ## Disassembling -/

/-- The text that `disasm` gives for bytes. -/
def DisassembleSettings.text (s : DisassembleSettings) (content : List UInt8) : Text :=
  if s.listing then Disassembly.listing content programStart
  else Disassembly.text (Disassembly.disassemble content !s.all)

/-- The reply to `disasm`. -/
def DisassembleSettings.reply (s : DisassembleSettings) (content : List UInt8) : Reply :=
  let shown := asLine (s.text content)
  let events := if s.listing then [] else Disassembly.events content !s.all
  match s.output with
  | none => { output := shown, events }
  | some path =>
    let notice := writtenNotice "Disassembled" content.length path
    { save := some { path, content := encodeText shown, notice }, events }

/-! ## Running -/

/-- The number of bytes in a dump of memory. -/
def dumpLength : Int := 64

/-- The configuration of a run. -/
def RunSettings.config (s : RunSettings) : Config :=
  { clockSpeed := s.speed.value?.getD 0, seed := s.seed.bind Given.value?
    realtime := !s.noSleep, trace := s.trace }

/-- The seed of a run. The entropy is the seed if the option is not there. -/
def RunSettings.startingSeed (s : RunSettings) (entropy : Int) : Except Breakdown Int :=
  match s.seed with
  | none => .ok entropy
  | some given => RunOption.seed.need given

/-- The breakpoints and the number of frames of a run. The clock speed is needed only if there are
any frames. -/
def RunSettings.plan (s : RunSettings) : Except Breakdown (List Int × Int) := do
  let breakpoints ← s.breakpoints.mapM RunOption.breakpoint.need
  let frames ← RunOption.frames.need s.frames
  if 0 < frames then
    let _ ← RunOption.speed.need s.speed
  return (breakpoints, frames)

/-- What is printed of the final state of a run. -/
def RunSettings.stateLines {ρ : Type} (s : RunSettings) (console : Console) (e : Emulator ρ) :
    List Text :=
  let m := e.machine
  let trace := if s.trace then [console.text e.traceText] else []
  let screen := if s.showDisplay then console.screen m.screen else []
  trace ++ screen ++ console.registers m.registers m.timers

/-- The dump of memory that is printed after a run. -/
def RunSettings.dumpLines (s : RunSettings) (console : Console) (m : Memory) :
    Except Breakdown (List Text) :=
  match s.dump with
  | none => .ok []
  | some given => do
    let address ← RunOption.dump.need given
    return [console.text (m.dump address dumpLength)]

/-- The last line that is printed after a run. -/
def summaryLine {ρ : Type} (outcome : FrameLoop.Outcome) (l : FrameLoop ρ) : Text :=
  s!"Stopped: {outcome.name} after {l.frames} frames ({l.frontend.soundFrames} with sound)".toList

/-- The exit status after a run. -/
def runStatus : FrameLoop.Outcome → Nat
  | .stopped .error => 1
  | _ => 0

/-- The reply to a run that has come to an end. -/
def RunSettings.replyToEnd {ρ : Type} (s : RunSettings) (console : Console)
    (outcome : FrameLoop.Outcome) (l : FrameLoop ρ) : Reply :=
  let state := s.stateLines console l.emulator
  let reply : Reply :=
    { output := asLines state
      events := l.emulator.journal.toList
      pacedFrames := if s.config.realtime then l.frames else 0 }
  match s.dumpLines console l.emulator.machine.memory with
  | .error cause => { reply with outcome := .broken cause }
  | .ok dump =>
    { reply with
      output := asLines (state ++ dump ++ [console.text (summaryLine outcome l)])
      outcome := .status (runStatus outcome) }

/-- The reply to `run` on a ROM, with a seed for the random bytes. -/
def RunSettings.reply (s : RunSettings) (console : Console) (seed : Int) (rom : List UInt8) :
    Reply :=
  match (Emulator.initial s.config (Twister.ofSeed seed)).load rom programStart with
  | .error error => complain [errorLine error.message.toList]
  | .ok loaded =>
    match s.plan with
    | .error cause => { events := loaded.journal.toList, outcome := .broken cause }
    | .ok (breakpoints, frames) =>
      let start : FrameLoop Twister :=
        { emulator := breakpoints.foldl Emulator.addBreakpoint loaded
          frontend := .scripted {}, config := s.config, stopOnBreak := true }
      let (outcome, l) := start.pump (some frames)
      s.replyToEnd console outcome l

/-! ## Tasks -/

/-- The seed of a task. Only a run may lack it. -/
def Task.startingSeed (task : Task) (entropy : Int) : Except Breakdown Int :=
  match task with
  | .run settings => settings.startingSeed entropy
  | _ => .ok entropy

/-- The path at which a task looks for its file. A run takes the plain form of the path that it is
given. -/
def Task.path (task : Task) (input : Text) : Text :=
  match task with
  | .run _ => Path.plain input
  | _ => input

/-- The reply to a task on the bytes of its file. -/
def Task.reply (task : Task) (console : Console) (seed : Int) (input : Text)
    (content : List UInt8) : Reply :=
  match task with
  | .assemble settings => settings.reply input content
  | .disassemble settings => settings.reply content
  | .run settings => settings.reply console seed content

end Chip8.Command
