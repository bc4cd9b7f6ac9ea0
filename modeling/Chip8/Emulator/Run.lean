/-
# Runs

A run makes steps up to a bound and stops earlier at a breakpoint, when a register waits for a key,
or at an instruction that cannot be executed. A fault of the call stack is reported; a sprite that
is not drawn breaks the run off without a report. The emulator remembers at which breakpoint a run
stopped; the next run may step past that one as its first step.
-/

import Chip8.Emulator.Basic

namespace Chip8

/-- Why a run ended. -/
inductive StopReason where
  /-- the bound on the steps was reached -/
  | timeout
  /-- the program counter reached a breakpoint -/
  | breakpoint
  /-- a register waits for a key -/
  | waitKey
  /-- an instruction cannot be executed -/
  | error
  /-- a sprite is not drawn -/
  | broken (reason : DrawError)
  deriving DecidableEq, Repr

/-- The name of the reason in reports. -/
def StopReason.name : StopReason → String
  | .timeout => "TIMEOUT"
  | .breakpoint => "BREAK"
  | .waitKey => "WAIT_KEY"
  | .error => "ERROR"
  | .broken _ => "BROKEN"

/-- What a step of the emulator comes to. -/
inductive StepResult where
  | executed
  | waiting
  | failed (fault : Fault)
  deriving DecidableEq, Repr

namespace Emulator

variable {ρ : Type} [RandomSource ρ]

/-- The word at the program counter. -/
def currentWord (e : Emulator ρ) : Nat := e.machine.memory.readWord e.pc

/-- While tracing, the instruction at the program counter is traced and reported. -/
def traceAttempt (e : Emulator ρ) : Emulator ρ :=
  if e.tracing then
    let entry := TraceEntry.attempt e.currentWord e.machine.registers
    { e with trace := e.trace.push entry }.report (.traced entry.text)
  else e

/-- One step. Waiting for a key leaves no trace. -/
def step (e : Emulator ρ) : StepResult × Emulator ρ :=
  match e.machine.step with
  | .waiting => (.waiting, e)
  | .executed machine => (.executed, { e.traceAttempt with machine })
  | .failed fault => (.failed fault, e.traceAttempt)

/-- Steps up to a bound, as long as they are executed. -/
def steps : Nat → Emulator ρ → StepResult × Emulator ρ
  | 0, e => (.executed, e)
  | count + 1, e =>
    match e.step with
    | (.executed, after) => steps count after
    | stopped => stopped

/-- A failure that ends a run is reported, and traced while tracing. -/
def noteFailure (e : Emulator ρ) (fault : Fault) : Emulator ρ :=
  let word := e.currentWord
  let reported := e.report (.runFailed fault e.pc word (decode word))
  if e.tracing then { reported with trace := reported.trace.push (.failure fault) } else reported

/-- The end of a run at a fault. -/
def stopAt (e : Emulator ρ) : Fault → StopReason × Emulator ρ
  | .undrawn reason => (.broken reason, e)
  | fault => (.error, e.noteFailure fault)

/-- The breakpoint at the program counter is remembered. -/
def noteBreakpoint (e : Emulator ρ) : Emulator ρ :=
  { e with resumeFrom := some e.pc }.report (.breakpoint e.pc)

/-- The steps of a run. A breakpoint at the exempted address does not stop the first of them. -/
def runFrom (exempted : Option Int) : Nat → Emulator ρ → StopReason × Emulator ρ
  | 0, e => (.timeout, e)
  | bound + 1, e =>
    if e.breakpoints.contains e.pc && exempted != some e.pc then (.breakpoint, e.noteBreakpoint)
    else match e.step with
      | (.executed, after) => runFrom none bound after
      | (.waiting, after) => (.waitKey, after)
      | (.failed fault, after) => after.stopAt fault

/-- A run of at most so many steps. -/
def run (e : Emulator ρ) (bound : Nat) : StopReason × Emulator ρ :=
  runFrom e.resumeFrom bound { e with resumeFrom := none }

/-- The bound of a run that is given none. -/
def defaultBound : Nat := 1000000

end Emulator

end Chip8
