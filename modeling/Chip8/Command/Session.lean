/-
# Sessions

A session runs the command line once: it reads the arguments, starts the log file, reads the input
file, logs the events of the reply, and saves what the reply asks for. What is printed is collected
in a transcript, so the only effects are those on files.
-/

import Chip8.Command.LogFile
import Chip8.Command.Panel
import Chip8.Command.Reply

namespace Chip8.Command

/-- What a session shows. -/
structure Transcript where
  output : Text := []
  errors : Text := []
  /-- the events that are shown -/
  events : List Event := []
  /-- the frames that wait for the clock -/
  pacedFrames : Nat := 0
  outcome : Outcome := .status 0
  deriving DecidableEq, Repr

/-- The exit status of a misuse. -/
def misuseStatus : Nat := 2

/-- The transcript of a session that halts. -/
def Halt.transcript : Halt → Transcript
  | .help page => { output := page }
  | .version => { output := asLine (programName ++ ' ' :: programVersion) }
  | .misuse program usage error =>
    { errors := usage ++ asLine (program ++ ": error: ".toList ++ error.message)
      outcome := .status misuseStatus }

/-- The transcript of a reply. -/
def Globals.transcript (g : Globals) (reply : Reply) : Transcript :=
  { output := reply.output
    errors := reply.errors
    events := g.shown reply.events
    pacedFrames := reply.pacedFrames
    outcome := reply.outcome }

/-- The reply when a file operation fails. -/
def fileComplaint (error : FileError) : Reply := complain [errorLine error.message]

/-- The reply when the program breaks off at once. -/
def breakOff (cause : Breakdown) : Reply := { outcome := .broken cause }

section

variable {m : Type → Type} [Monad m]

/-- Saves the file that a reply asks for. The notice is printed after that. -/
def Reply.finish (reply : Reply) (files : Files m) : m Reply := do
  match reply.save with
  | none => return reply
  | some save =>
    if Path.isNameable save.path then
      match ← files.write save.path save.content with
      | .ok () => return { reply with output := reply.output ++ save.notice }
      | .error error =>
        return { fileComplaint error with output := reply.output, events := reply.events }
    else return { reply with outcome := .broken (.unnameable save.path) }

/-- The reply to an invocation, with its file read, its events logged and its result saved. -/
def Invocation.perform (i : Invocation) (files : Files m) (console : Console) (entropy : Int) :
    m Reply := do
  match i.task.startingSeed entropy with
  | .error cause => return breakOff cause
  | .ok seed =>
    let path := i.task.path i.input
    if Path.isNameable path then
      match ← files.read path with
      | .error error => return fileComplaint error
      | .ok content =>
        let reply := i.task.reply console seed i.input content
        if let some log := i.globals.logPath then files.log log reply.events
        reply.finish files
    else return breakOff (.unnameable path)

/-- A session with these arguments. The entropy is the seed of random bytes if none is set, and the
console lays out what a run shows. -/
def session (files : Files m) (entropy : Int) (arguments : List Text)
    (console : Console := .framed) : m Transcript := do
  match Invocation.ofArguments arguments with
  | .error halt => return halt.transcript
  | .ok i =>
    match ← i.globals.startLog files with
    | .error cause => return i.globals.transcript (breakOff cause)
    | .ok () => return i.globals.transcript (← i.perform files console entropy)

end

end Chip8.Command
