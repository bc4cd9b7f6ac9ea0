/-
# The program

The command line on the real disk and terminal. All decisions are made by `Command.session`; here
files are read and written, and the transcript is printed.
-/

import Chip8.Command.Session

namespace Chip8.Terminal

open Chip8.Command

/-- The number that systems give to a problem. Some operations give it with its sign changed. -/
def problemCode (code : UInt32) : Nat := (min code (0 - code)).toNat

/-- The problem behind an error of the system. -/
def problemOf : IO.Error → FileProblem
  | .noFileOrDirectory .. => .missing
  | .permissionDenied .. => .denied
  | .alreadyExists .. => .exists
  | .inappropriateType _ code _ =>
    if problemCode code == FileProblem.notFolder.code then .notFolder else .folder
  | .invalidArgument _ code details =>
    if problemCode code == FileProblem.nameTooLong.code then .nameTooLong
    else .other (problemCode code) details
  | error => .other 5 (toString error)

/-- An operation on a file, with its error as a value. -/
def attempt {α : Type} (path : Text) (action : IO α) : IO (Except FileError α) := do
  match ← action.toBaseIO with
  | .ok value => return .ok value
  | .error error => return .error { problem := problemOf error, path }

/-- The bytes of a file. -/
def readBytes (path : Text) : IO (Except FileError (List UInt8)) :=
  attempt path do return (← IO.FS.readBinFile (String.ofList path)).toList

/-- There is a folder with this path, which shows when it is read. -/
def isFolder (path : Text) : IO Bool := do
  match ← readBytes path with
  | .ok _ => return false
  | .error error => return error.problem == .folder

/-- The name of a channel in log files. -/
def channelName : Channel → String
  | .assembler => "assembler"
  | .disassembler => "disassembler"
  | .emulator => "emulator"
  | .frames => "frames"

/-- The event as a line of a log file. -/
def logLine (event : Event) : String :=
  let level := String.ofList (Text.padRight 7 event.level.name.toList)
  s!"{level} | {channelName event.channel} | {event.message}"

/-- Adds events to a log file. -/
def appendLog (path : Text) (events : List Event) : IO (Except FileError Unit) :=
  let path := Path.resolved path
  attempt path do
    let handle ← IO.FS.Handle.mk (String.ofList path) .append
    for event in events do
      handle.putStrLn (logLine event)

/-- The files of the disk. Events that cannot be logged are lost. -/
def files : Files IO :=
  { read := readBytes
    write := fun path content =>
      attempt path (IO.FS.writeBinFile (String.ofList path) ⟨content.toArray⟩)
    isFolder
    makeFolder := fun path => attempt path (IO.FS.createDir (String.ofList path))
    startLog := fun path => appendLog path []
    log := fun path events => discard (appendLog path events) }

/-- Prints a transcript and gives the exit status. -/
def report (t : Transcript) : IO UInt32 := do
  for event in t.events do
    IO.eprintln s!"{event.level.name} {event.message}"
  IO.sleep (UInt32.ofNat (t.pacedFrames * 1000 / frameRate))
  IO.print (String.ofList t.output)
  IO.eprint (String.ofList t.errors)
  match t.outcome with
  | .status code => return UInt32.ofNat code
  | .broken cause =>
    IO.eprintln (String.ofList cause.message)
    return 1

/-- A number from the random bytes of the system. -/
def entropy : IO Int := do
  let bytes ← IO.getRandomBytes 8
  return bytes.foldl (fun n b => n * 256 + b.toNat) 0

end Chip8.Terminal

/-- Runs the command line. -/
def main (arguments : List String) : IO UInt32 := do
  let entropy ← Chip8.Terminal.entropy
  let transcript ←
    Chip8.Command.session Chip8.Terminal.files entropy (arguments.map String.toList)
  Chip8.Terminal.report transcript
