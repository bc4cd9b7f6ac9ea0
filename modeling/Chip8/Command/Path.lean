/-
# Paths

Paths of files as texts: names with slashes between them, and slashes in front if the path starts
from the root. A path that holds a NUL character names no file. The plain form of a path leaves out
what leads nowhere; the resolved form also takes each `..` together with the name in front of it.
-/

import Chip8.Text.Basic

namespace Chip8.Command.Path

/-- The name that leads up. -/
def up : Text := ['.', '.']

/-- The path can name a file. -/
def isNameable (path : Text) : Bool := !path.contains '\x00'

/-- The root from which a path starts, if it starts from one, and the rest. Two slashes are a root
of their own; any other number of slashes is the same as one. -/
def cutRoot (path : Text) : Text × Text :=
  let slashes := path.takeWhile (· == '/')
  (if slashes.length = 2 then slashes else slashes.take 1, path.dropWhile (· == '/'))

/-- The names on the way that a path describes. Empty names and `.` lead nowhere. -/
def names (path : Text) : List Text :=
  (Text.cut (· == '/') path).filter fun name => !name.isEmpty && name != ['.']

/-- The path that goes from a root, or from no root, by these names. -/
def ofNames (root : Text) (names : List Text) : Text :=
  match root ++ Text.join ['/'] names with
  | [] => ['.']
  | path => path

/-- The plain form of a path, without what leads nowhere. -/
def plain (path : Text) : Text :=
  let (root, rest) := cutRoot path
  ofNames root (names rest)

/-- The folder that holds the file of a path, in its plain form. -/
def folder (path : Text) : Text :=
  let (root, rest) := cutRoot path
  ofNames root (names rest).dropLast

/-- A way with one more name, where `..` takes away the name in front of it. Nothing is above the
root. -/
def extend (fromRoot : Bool) (way : List Text) (name : Text) : List Text :=
  if name != up then way ++ [name]
  else if !way.all (· == up) then way.dropLast
  else if fromRoot then way
  else way ++ [up]

/-- The resolved form of a path. It holds `..` only at its start, and only if the path does not
start from the root. -/
def resolved (path : Text) : Text :=
  let (root, rest) := cutRoot path
  ofNames root ((names rest).foldl (extend !root.isEmpty) [])

/-- The part of a path in front of the extension of its last name. Dots at the start of a name do
not begin an extension. -/
def withoutExtension (path : Text) : Text :=
  let name := (path.reverse.takeWhile (· != '/')).reverse
  let folder := path.take (path.length - name.length)
  let stem := name.dropWhile (· == '.')
  if stem.contains '.' then
    let extension := stem.reverse.takeWhile (· != '.')
    folder ++ name.take (name.length - (extension.length + 1))
  else path

end Chip8.Command.Path
