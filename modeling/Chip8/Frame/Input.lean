/-
# Inputs

What a user can do during a frame, and a front end that does it from a script. The script says which
inputs come in which frame and after how many frames to ask for the end. The front end counts the
frames that it has shown, those with sound and those that ended paused.
-/

import Chip8.Keypad
import Chip8.Text.Quoted

namespace Chip8

/-- An input of a frame. -/
inductive Input where
  /-- a key goes down -/
  | key (k : Nibble)
  /-- one step while paused -/
  | step
  /-- pause or resume -/
  | togglePause
  /-- ask for the end -/
  | quit
  deriving DecidableEq, Repr

/-- Why something is no input. -/
inductive InputError where
  /-- no key has this number -/
  | noKey (number : Int)
  /-- no input has this name -/
  | noName (name : Text)
  deriving DecidableEq, Repr

/-- The wording of the error. -/
def InputError.message : InputError → String
  | .noKey number => s!"Chip8Key {number} out of range 0-F"
  | .noName name => s!"{String.ofList (Text.quoted name)} is not a valid KeyInput"

namespace Input

/-- The press of the key with a number. -/
def ofNumber (number : Int) : Except InputError Input :=
  match keyOf number with
  | .ok k => .ok (.key k)
  | .error _ => .error (.noKey number)

/-- The input with a name. -/
def ofName (name : Text) : Except InputError Input :=
  match String.ofList name with
  | "STEP" => .ok .step
  | "TOGGLE_PAUSE" => .ok .togglePause
  | "QUIT" => .ok .quit
  | _ => .error (.noName name)

end Input

/-- A front end that follows a script. -/
structure Script where
  /-- the inputs by frame -/
  schedule : List (Int × List Input) := []
  /-- the number of frames after which to ask for the end -/
  quitAfter : Option Int := none
  frames : Nat := 0
  soundFrames : Nat := 0
  pausedFrames : Nat := 0
  deriving DecidableEq, Repr

namespace Script

/-- The inputs of the frame that comes next. -/
def inputs (s : Script) : List Input := (s.schedule.lookup (s.frames : Int)).getD []

/-- A frame is shown; tells whether the script asks for the end. -/
def present (s : Script) (sound running : Bool) : Bool × Script :=
  let shown := { s with
    frames := s.frames + 1
    soundFrames := s.soundFrames + (if sound then 1 else 0)
    pausedFrames := s.pausedFrames + (if running then 0 else 1) }
  let ends := match s.quitAfter with
    | some count => decide (count ≤ shown.frames)
    | none => false
  (ends, shown)

end Script

/-- A front end: one that follows a script, or one that gives no inputs and shows nothing. -/
inductive Frontend where
  | scripted (script : Script)
  | silent
  deriving DecidableEq, Repr

namespace Frontend

/-- The inputs of the frame that comes next. -/
def inputs : Frontend → List Input
  | .scripted s => s.inputs
  | .silent => []

/-- A frame is shown; tells whether the front end asks for the end. -/
def present (f : Frontend) (sound running : Bool) : Bool × Frontend :=
  match f with
  | .scripted s =>
    let (ends, shown) := s.present sound running
    (ends, .scripted shown)
  | .silent => (false, .silent)

/-- The frames with sound that the front end has counted. -/
def soundFrames : Frontend → Nat
  | .scripted s => s.soundFrames
  | .silent => 0

end Frontend

end Chip8
