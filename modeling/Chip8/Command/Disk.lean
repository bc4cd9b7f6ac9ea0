/-
# A disk as a value

Files and folders as one value, and the operations of the command line on it. Paths are followed
name by name as systems follow them: every name but the last must be that of a folder, `.` leads
nowhere and `..` leads up.
-/

import Chip8.Command.Files
import Chip8.Command.Path

namespace Chip8.Command

/-- What a file holds: bytes, and the events that are logged behind them. -/
structure Content where
  bytes : List UInt8 := []
  events : List Event := []
  deriving DecidableEq, Repr

/-- Where a file or a folder is: the names on the way to it. The way starts in the working folder
or, with the name `/`, at the root. Above the working folder it goes on with `..`. -/
abbrev Place := List Text

/-- A disk with its files and its folders. -/
structure Disk where
  files : List (Place × Content) := []
  folders : List Place := []
  /-- the files that stay empty whatever is written to them -/
  sinks : List Place := []
  deriving DecidableEq, Repr

namespace Disk

/-! ## Places -/

/-- The place is the working folder or above it. -/
def isAbove (place : Place) : Bool := place.all (· == Path.up)

/-- The folder around a place. -/
def parent (place : Place) : Place :=
  if isAbove place then place ++ [Path.up]
  else if place = [['/']] then place
  else place.dropLast

/-- The place is neither above the working folder nor reached from the root. -/
def isInside (place : Place) : Bool :=
  match place.head? with
  | some name => name != Path.up && name != ['/']
  | none => true

/-- The place at which a path starts. -/
def start (path : Text) : Place := if path.head? = some '/' then [['/']] else []

/-- The file at a place. -/
def file? (d : Disk) (place : Place) : Option Content :=
  if place ∈ d.sinks then some {} else d.files.lookup place

/-- There is a folder at a place. -/
def isFolder (d : Disk) (place : Place) : Bool := isAbove place || d.folders.contains place

/-- Makes the content of a file this. -/
def put (d : Disk) (place : Place) (content : Content) : Disk :=
  if place ∈ d.sinks then d
  else if (d.files.lookup place).isSome then
    { d with files := d.files.map fun (p, c) => if p = place then (p, content) else (p, c) }
  else { d with files := d.files ++ [(place, content)] }

/-- The disk with these files and the folders on the way to them. -/
def ofFiles (files : List (Place × Content)) : Disk :=
  { files
    folders := files.flatMap fun (place, _) =>
      (List.range place.length).map fun count => place.take count }

/-! ## Following paths -/

/-- The greatest number of bytes in a name. -/
def nameLimit : Nat := 255

/-- The greatest number of bytes in a path. -/
def pathLimit : Nat := 4095

/-- The number of bytes that a text takes. -/
def byteCount (t : Text) : Nat := (String.ofList t).utf8ByteSize

/-- Follows names from a place on. Nothing need be at the place where they end. -/
def follow (d : Disk) : Place → List Text → Except FileProblem Place
  | place, [] => .ok place
  | place, name :: rest =>
    if (d.file? place).isSome then .error .notFolder
    else if !d.isFolder place then .error .missing
    else if name.isEmpty || name == ['.'] then d.follow place rest
    else if name == Path.up then d.follow (parent place) rest
    else if nameLimit < byteCount name then .error .nameTooLong
    else d.follow (place ++ [name]) rest

/-- The place that a path names. -/
def locate (d : Disk) (path : Text) : Except FileProblem Place :=
  if path.isEmpty then .error .missing
  else if pathLimit < byteCount path then .error .nameTooLong
  else d.follow (start path) (Text.cut (· == '/') path)

/-! ## Operations -/

/-- The bytes of a file. -/
def read (d : Disk) (path : Text) : Except FileProblem (List UInt8) := do
  let place ← d.locate path
  match d.file? place with
  | some content => return content.bytes
  | none => throw (if d.isFolder place then .folder else .missing)

/-- Makes the bytes of a file these. A path with a slash at its end asks for a folder, so only the
way to its last name is followed. -/
def write (d : Disk) (path : Text) (bytes : List UInt8) : Except FileProblem Disk := do
  if path.getLast? = some '/' then
    if pathLimit < byteCount path then throw .nameTooLong
    let names := Text.cut (· == '/') (path.reverse.dropWhile (· == '/')).reverse
    let _ ← d.follow (start path) (names.dropLast ++ [[]])
    throw .folder
  let place ← d.locate path
  if d.isFolder place then throw .folder
  return d.put place { bytes }

/-- There is a folder with this path. -/
def hasFolder (d : Disk) (path : Text) : Bool :=
  match d.locate path with
  | .ok place => d.isFolder place
  | .error _ => false

/-- Makes a folder. -/
def makeFolder (d : Disk) (path : Text) : Except FileProblem Disk := do
  let place ← d.locate path
  if (d.file? place).isSome || d.isFolder place then throw .exists
  return { d with folders := d.folders ++ [place] }

/-- The place of a log file, which is that of its resolved path: `..` leads up from any name, be it
that of a folder or not. -/
def logPlace (path : Text) : Place := start path ++ Path.names (Path.resolved path)

/-- What stands against a log file at a place. -/
def logProblem? (d : Disk) (path : Text) : Option FileProblem :=
  let place := logPlace path
  if pathLimit < byteCount (Path.resolved path) then some .nameTooLong
  else if (d.file? place).isSome then none
  else if d.isFolder place then some .folder
  else if nameLimit < byteCount (place.getLastD []) then some .nameTooLong
  else none

/-- Makes sure that a log file is there. An error shows the resolved path. -/
def startLog (d : Disk) (path : Text) : Except FileError Unit × Disk :=
  match d.logProblem? path with
  | some problem => (.error { problem, path := Path.resolved path }, d)
  | none => (.ok (), d.put (logPlace path) ((d.file? (logPlace path)).getD {}))

/-- Adds events to a log file. -/
def log (d : Disk) (path : Text) (events : List Event) : Disk :=
  let place := logPlace path
  let content := (d.file? place).getD {}
  d.put place { content with events := content.events ++ events }

/-- The operations on the files of a disk. -/
def operations : Files (StateM Disk) :=
  { read := fun path d => ((d.read path).mapError fun problem => { problem, path }, d)
    write := fun path bytes d =>
      match d.write path bytes with
      | .ok after => (.ok (), after)
      | .error problem => (.error { problem, path }, d)
    isFolder := fun path d => (d.hasFolder path, d)
    makeFolder := fun path d =>
      match d.makeFolder path with
      | .ok after => (.ok (), after)
      | .error problem => (.error { problem, path }, d)
    startLog := fun path d => d.startLog path
    log := fun path events d => ((), d.log path events) }

end Disk

end Chip8.Command
