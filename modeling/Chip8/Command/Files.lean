/-
# Files

What the command line needs of the files around it, as operations of any monad: a program works
on the disk, and a test or a proof on a value.
-/

import Chip8.Journal
import Chip8.Text.Quoted

namespace Chip8.Command

/-- What goes wrong with a file. -/
inductive FileProblem where
  | missing
  | denied
  | exists
  | notFolder
  | folder
  | nameTooLong
  | other (code : Nat) (description : String)
  deriving DecidableEq, Repr

namespace FileProblem

/-- The number that systems give to the problem. -/
def code : FileProblem → Nat
  | .missing => 2
  | .denied => 13
  | .exists => 17
  | .notFolder => 20
  | .folder => 21
  | .nameTooLong => 36
  | .other code _ => code

/-- The words that systems have for the problem. -/
def description : FileProblem → String
  | .missing => "No such file or directory"
  | .denied => "Permission denied"
  | .exists => "File exists"
  | .notFolder => "Not a directory"
  | .folder => "Is a directory"
  | .nameTooLong => "File name too long"
  | .other _ description => description

end FileProblem

/-- An operation on a file that has failed. -/
structure FileError where
  problem : FileProblem
  path : Text
  deriving DecidableEq, Repr

/-- The wording of the error. -/
def FileError.message (e : FileError) : Text :=
  s!"[Errno {e.problem.code}] {e.problem.description}: ".toList ++ Text.quoted e.path

/-- The operations on files. -/
structure Files (m : Type → Type) where
  /-- the bytes of a file -/
  read : Text → m (Except FileError (List UInt8))
  /-- makes the bytes of a file these -/
  write : Text → List UInt8 → m (Except FileError Unit)
  /-- there is a folder with this path -/
  isFolder : Text → m Bool
  /-- makes a folder where there is nothing -/
  makeFolder : Text → m (Except FileError Unit)
  /-- makes sure that a file is there, ready to take events -/
  startLog : Text → m (Except FileError Unit)
  /-- adds events to such a file -/
  log : Text → List Event → m Unit

end Chip8.Command
