/-
# The emulator

A machine with its settings and the means to watch it: breakpoints, a trace and a journal. The
operations are those that a user has between runs.
-/

import Chip8.Config
import Chip8.Emulator.Breakpoints
import Chip8.Emulator.Trace
import Chip8.Journal
import Chip8.Machine.Step

namespace Chip8

/-- A machine under observation. -/
structure Emulator (ρ : Type) where
  config : Config
  machine : Machine ρ
  breakpoints : Breakpoints
  /-- where the last run stopped, if that was at a breakpoint -/
  resumeFrom : Option Int
  tracing : Bool
  trace : Array TraceEntry
  journal : Array Event

namespace Emulator

variable {ρ : Type}

/-- The emulator after power-on. -/
def initial (config : Config) (random : ρ) : Emulator ρ :=
  { config, machine := Machine.initial config.stackLimit random, breakpoints := Breakpoints.none
    resumeFrom := none, tracing := config.trace, trace := #[], journal := #[] }

/-- The program counter. -/
def pc (e : Emulator ρ) : Int := e.machine.pc

/-- Adds an event to the journal. -/
def report (e : Emulator ρ) (event : Event) : Emulator ρ :=
  { e with journal := e.journal.push event }

/-- Takes the events out of the journal. -/
def drain (e : Emulator ρ) : List Event × Emulator ρ :=
  (e.journal.toList, { e with journal := #[] })

/-- Loads a ROM; one that does not fit changes nothing. -/
def load (e : Emulator ρ) (rom : List UInt8) (base : Int) : Except RomTooLarge (Emulator ρ) :=
  match e.machine.load rom base with
  | .ok machine => .ok ({ e with machine }.report (.loaded rom.length base))
  | .error error => .error error

/-- One frame passes for the timers. -/
def tick (e : Emulator ρ) : Emulator ρ := { e with machine := e.machine.tick }

/-- All keys come up. -/
def clearKeys (e : Emulator ρ) : Emulator ρ := { e with machine := e.machine.clearKeys }

/-- A key goes down, which may end the wait of a register. -/
def pressKey (e : Emulator ρ) (key : Nibble) : Emulator ρ :=
  let pressed := { e with machine := e.machine.pressKey key }
  match e.machine.registers.keyWait with
  | some x => pressed.report (.keyReleased key x)
  | none => pressed

/-- Presses the key with a number, if there is one. -/
def pressNumber (e : Emulator ρ) (number : Int) : Except NoSuchKey (Emulator ρ) :=
  (keyOf number).map e.pressKey

/-- Stops runs in front of an address. -/
def addBreakpoint (e : Emulator ρ) (address : Int) : Emulator ρ :=
  { e with breakpoints := e.breakpoints.insert address }

/-- Does not stop runs in front of an address any more. -/
def removeBreakpoint (e : Emulator ρ) (address : Int) : Emulator ρ :=
  { e with breakpoints := e.breakpoints.erase address }

/-- Removes all breakpoints. -/
def clearBreakpoints (e : Emulator ρ) : Emulator ρ := { e with breakpoints := Breakpoints.none }

/-- Switches tracing on or off; what has been traced stays. -/
def setTracing (e : Emulator ρ) (on : Bool) : Emulator ρ := { e with tracing := on }

/-- Empties the trace. -/
def clearTrace (e : Emulator ρ) : Emulator ρ := { e with trace := #[] }

/-- The trace, one entry per line. -/
def traceText (e : Emulator ρ) : Text := Text.join ['\n'] (e.trace.toList.map TraceEntry.text)

/-- Power-on state. Breakpoints and trace are emptied; tracing stays switched as it is. -/
def reset [RandomSource ρ] (e : Emulator ρ) : Emulator ρ :=
  { e with
    machine := e.machine.reset e.config.seed
    breakpoints := Breakpoints.none
    resumeFrom := none
    trace := #[] }

end Emulator

end Chip8
