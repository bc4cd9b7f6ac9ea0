/-
# Configuration

The settings of a run. The clock speed is in instructions per second, and named profiles give
common speeds; a frame lasts a sixtieth of a second.
-/

import Chip8.Text.Basic

namespace Chip8

/-- Frames per second. -/
def frameRate : Nat := 60

/-- The settings of a run. -/
structure Config where
  /-- instructions per second -/
  clockSpeed : Int := 500
  /-- the seed of the random bytes, if they are to be repeatable -/
  seed : Option Int := none
  /-- frames wait for the clock -/
  realtime : Bool := true
  /-- the trace is switched on at the start -/
  trace : Bool := false
  /-- the greatest depth of the call stack -/
  stackLimit : Option Int := none
  deriving DecidableEq, Repr

/-- The named clock speeds. -/
def speedProfiles : List (String × Int) :=
  [("slow", 300), ("default", 500), ("fast", 1000), ("turbo", 3000)]

/-- The names of the clock speeds as messages list them. -/
def profileNames : String := ", ".intercalate (speedProfiles.map Prod.fst)

/-- Why a profile is not taken into a configuration. -/
inductive ProfileError where
  /-- no profile has this name -/
  | unknown (name : String)
  /-- the clock speed is set beside the profile -/
  | speedSetTwice
  deriving DecidableEq, Repr

/-- The wording of the error. -/
def ProfileError.message : ProfileError → String
  | .unknown name => s!"Unknown speed profile '{name}'. Choose from: {profileNames}"
  | .speedSetTwice => "the clock speed is set twice"

namespace Config

/-- The whole instructions that fit into a frame. -/
def stepsPerFrame (c : Config) : Int := c.clockSpeed.fdiv frameRate

/-- The settings with the clock speed of a named profile. It must not have been set already. -/
def withProfile (c : Config) (speedIsSet : Bool) (name : String) : Except ProfileError Config :=
  match speedProfiles.lookup name with
  | none => .error (.unknown name)
  | some clockSpeed => if speedIsSet then .error .speedSetTwice else .ok { c with clockSpeed }

end Config

end Chip8
