/-
# Log files

How a log file is started. Its folder comes first, with the folders on the way to it, and then the
file. What has been made stays if a later step fails, and a path that can name no file is refused at
the step that needs it.
-/

import Chip8.Command.Outcome
import Chip8.Command.Path

namespace Chip8.Command

variable {m : Type → Type} [Monad m]

/-- The end of an attempt to make a folder: an error does not matter if the folder is there. -/
def Files.settle (files : Files m) (path : Text) :
    Except FileError Unit → m (Except FileError Unit)
  | .ok () => return .ok ()
  | .error error => return if ← files.isFolder path then .ok () else .error error

/-- Makes sure that there is a folder to which names lead from a root, and those on the way to it.
The names are given last name first. -/
def Files.makeFoldersBy (files : Files m) (root : Text) : List Text → m (Except FileError Unit)
  | [] => do
    let path := Path.ofNames root []
    files.settle path (← files.makeFolder path)
  | name :: outer => do
    let path := Path.ofNames root (name :: outer).reverse
    let first ← files.makeFolder path
    match first.mapError FileError.problem with
    | .error .missing =>
      match ← files.makeFoldersBy root outer with
      | .ok () => files.settle path (← files.makeFolder path)
      | .error error => return .error error
    | _ => files.settle path first

/-- Makes sure that there is a folder with this path, and those on the way to it. -/
def Files.makeFolders (files : Files m) (path : Text) : m (Except FileError Unit) :=
  let (root, rest) := Path.cutRoot path
  files.makeFoldersBy root (Path.names rest).reverse

/-- The path of the log file, in its plain form. -/
def Globals.logPath (g : Globals) : Option Text := g.logFile.map Path.plain

/-- An operation that needs a path which can name a file. -/
def onNameable (operation : Text → m (Except FileError Unit)) (path : Text) :
    m (Except Breakdown Unit) := do
  if Path.isNameable path then return (← operation path).mapError .noLog
  else return .error (.unnameable path)

/-- Starts the log file, if there is to be one. -/
def Globals.startLog (g : Globals) (files : Files m) : m (Except Breakdown Unit) := do
  match g.logPath with
  | none => return .ok ()
  | some path =>
    match ← onNameable files.makeFolders (Path.folder path) with
    | .error cause => return .error cause
    | .ok () => onNameable files.startLog path

end Chip8.Command
