/-
# The machine

The parts of the machine in one state: registers, memory, screen, timers, keypad and a source of
random bytes. The operations here are those of its surroundings: time passes, keys are pressed and
cleared, a ROM is loaded.
-/

import Chip8.Display
import Chip8.Keypad
import Chip8.Memory.Basic
import Chip8.Random.Source
import Chip8.Registers
import Chip8.Timers

namespace Chip8

/-- The screen of the machine. -/
abbrev Screen := Display 64 32

/-- The state of the machine. -/
structure Machine (ρ : Type) where
  registers : Registers
  memory : Memory
  screen : Screen
  timers : Timers
  keypad : Keypad
  random : ρ

namespace Machine

variable {ρ : Type}

/-- The machine after power-on. -/
def initial (stackLimit : Option Int) (random : ρ) : Machine ρ :=
  { registers := Registers.initial stackLimit, memory := Memory.initial
    screen := Display.blank 64 32, timers := Timers.initial, keypad := Keypad.initial, random }

/-- The program counter. -/
def pc (m : Machine ρ) : Int := m.registers.pc

/-- The buzzer sounds. -/
def sound (m : Machine ρ) : Bool := m.timers.soundActive

/-- A register waits for a key. -/
def waiting (m : Machine ρ) : Bool := m.registers.keyWait.isSome

/-- One frame passes for the timers. -/
def tick (m : Machine ρ) : Machine ρ := { m with timers := m.timers.tick }

/-- All keys come up. -/
def clearKeys (m : Machine ρ) : Machine ρ := { m with keypad := Keypad.initial }

/-- A key goes down. A register that waits for a key takes its number, and waits no longer. -/
def pressKey (m : Machine ρ) (key : Nibble) : Machine ρ :=
  let pressed := { m with keypad := m.keypad.press key }
  match m.registers.keyWait with
  | some x => { pressed with registers := { m.registers.set x key with keyWait := none } }
  | none => pressed

/-- The room for a ROM between its base and the end of memory. -/
def room (base : Int) : Int := memorySize - base

/-- Copies a ROM into memory and starts it there; a ROM that does not fit changes nothing. -/
def load (m : Machine ρ) (rom : List UInt8) (base : Int) : Except RomTooLarge (Machine ρ) :=
  if room base < rom.length then .error { size := rom.length, room := room base }
  else .ok { m with
    memory := m.memory.load base rom
    registers := { m.registers with pc := base } }

/-- Power-on state. The source of random bytes starts again if there is a seed, and goes on
otherwise. -/
def reset [RandomSource ρ] (m : Machine ρ) (seed : Option Int) : Machine ρ :=
  { registers := m.registers.reset, memory := Memory.initial, screen := Display.blank 64 32
    timers := Timers.initial, keypad := Keypad.initial
    random := match seed with
      | some s => RandomSource.reseed s m.random
      | none => m.random }

end Machine

end Chip8
