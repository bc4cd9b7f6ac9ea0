/-
# Watching an emulator

The trace and the journal show what an emulator does, and nothing that it does depends on them. A
change of them that goes along with every way of writing to them is called a watching change. It
passes through every call: the call gives the same answer, and it makes no difference whether the
change is made before the call or behind it. The induction over the steps of a run is done here
once.
-/

import Chip8.Proofs.Emulator.Calls

namespace Chip8

/-- What a call answers. -/
inductive Answer where
  | done
  /-- a step tells what it comes to -/
  | stepped (result : StepResult)
  /-- a run tells why it ended -/
  | stopped (reason : StopReason)
  /-- a ROM is not loaded -/
  | tooLarge (error : RomTooLarge)
  /-- a number names no key -/
  | noKey (error : NoSuchKey)
  deriving DecidableEq, Repr

/-- The event shows a line of the trace. -/
def Event.isTraced : Event → Bool
  | .traced _ => true
  | _ => false

/-- The call switches tracing on or off. -/
def Call.IsSwitch : Call → Prop
  | .setTracing _ => True
  | _ => False

instance : DecidablePred Call.IsSwitch
  | .setTracing _ => .isTrue trivial
  | .load .. | .step | .run _ | .tick | .pressKey _ | .clearKeys | .addBreakpoint _
  | .removeBreakpoint _ | .clearBreakpoints | .clearTrace | .reset => .isFalse id

namespace Emulator

variable {ρ : Type} [RandomSource ρ]

/-- What the emulator answers to a call. -/
def answer (e : Emulator ρ) : Call → Answer
  | .load rom base =>
    match e.load rom base with
    | .ok _ => .done
    | .error error => .tooLarge error
  | .step => .stepped e.step.1
  | .run bound => .stopped (e.run ((bound.map Int.toNat).getD defaultBound)).1
  | .pressKey number =>
    match e.pressNumber number with
    | .ok _ => .done
    | .error error => .noKey error
  | .tick | .clearKeys | .addBreakpoint _ | .removeBreakpoint _ | .clearBreakpoints | .setTracing _
  | .clearTrace | .reset => .done

/-- A change of emulators that concerns only how they are watched: it leaves what they do as it is,
and it does not matter whether it is made before something is reported or traced, or behind that. -/
structure Watching (change : Emulator ρ → Emulator ρ) : Prop where
  machine : ∀ e, (change e).machine = e.machine
  seed : ∀ e, (change e).config.seed = e.config.seed
  breakpoints : ∀ e, (change e).breakpoints = e.breakpoints
  resumeFrom : ∀ e, (change e).resumeFrom = e.resumeFrom
  withMachine : ∀ e machine, change { e with machine } = { change e with machine }
  withBreakpoints : ∀ e breakpoints, change { e with breakpoints } = { change e with breakpoints }
  withResumeFrom : ∀ e resumeFrom, change { e with resumeFrom } = { change e with resumeFrom }
  report : ∀ e event, event.isTraced = false → change (e.report event) = (change e).report event
  traceAttempt : ∀ e, change e.traceAttempt = (change e).traceAttempt
  noteFailure : ∀ e fault, change (e.noteFailure fault) = (change e).noteFailure fault
  clearTrace : ∀ e, change e.clearTrace = (change e).clearTrace

namespace Watching

variable {change : Emulator ρ → Emulator ρ} (h : Watching change) (e : Emulator ρ)
include h

theorem step : (change e).step = (e.step.1, change e.step.2) := by
  unfold Emulator.step
  rw [h.machine]
  cases e.machine.step with
  | waiting => rfl
  | executed machine =>
    dsimp only
    rw [h.withMachine e.traceAttempt machine, h.traceAttempt]
  | failed fault =>
    dsimp only
    rw [h.traceAttempt]

omit [RandomSource ρ] in
theorem noteBreakpoint : change e.noteBreakpoint = (change e).noteBreakpoint := by
  have hpc : (change e).pc = e.pc := congrArg Machine.pc (h.machine e)
  rw [Emulator.noteBreakpoint, h.report _ _ rfl, h.withResumeFrom, Emulator.noteBreakpoint, hpc]

omit [RandomSource ρ] in
theorem stopAt (fault : Fault) :
    (change e).stopAt fault = ((e.stopAt fault).1, change (e.stopAt fault).2) := by
  cases fault with
  | undrawn reason => rfl
  | stackOverflow limit address | stackUnderflow address =>
    simp only [Emulator.stopAt, h.noteFailure]

/-- The steps of a run are the same, and so is its end. -/
theorem runFrom (exempted : Option Int) (bound : Nat) :
    Emulator.runFrom exempted bound (change e) =
      ((Emulator.runFrom exempted bound e).1, change (Emulator.runFrom exempted bound e).2) := by
  induction bound generalizing e exempted with
  | zero => rfl
  | succ bound ih =>
    have hpc : (change e).pc = e.pc := congrArg Machine.pc (h.machine e)
    unfold Emulator.runFrom
    rw [h.breakpoints, hpc]
    by_cases hstops : (e.breakpoints.contains e.pc && exempted != some e.pc) = true
    · simp only [if_pos hstops, h.noteBreakpoint]
    · simp only [if_neg hstops, h.step]
      rcases e.step with ⟨result, after⟩
      cases result with
      | executed => exact ih after none
      | waiting => rfl
      | failed fault => exact h.stopAt after fault

theorem run (bound : Nat) : (change e).run bound = ((e.run bound).1, change (e.run bound).2) := by
  rw [Emulator.run, h.resumeFrom, ← h.withResumeFrom, h.runFrom, Emulator.run]

omit [RandomSource ρ] in
theorem load (rom : List UInt8) (base : Int) :
    (change e).load rom base = (e.load rom base).map change := by
  unfold Emulator.load
  rw [h.machine]
  cases e.machine.load rom base with
  | error error => rfl
  | ok machine =>
    dsimp only [Except.map]
    rw [h.report _ _ rfl, h.withMachine e machine]

omit [RandomSource ρ] in
theorem pressKey (key : Nibble) : change (e.pressKey key) = (change e).pressKey key := by
  unfold Emulator.pressKey
  rw [h.machine]
  cases e.machine.registers.keyWait with
  | none => exact h.withMachine e _
  | some x =>
    dsimp only
    rw [h.report _ _ rfl, h.withMachine e _]

omit [RandomSource ρ] in
theorem pressNumber (number : Int) :
    (change e).pressNumber number = (e.pressNumber number).map change := by
  unfold Emulator.pressNumber
  cases keyOf number with
  | error error => rfl
  | ok key => exact congrArg Except.ok (h.pressKey e key).symm

theorem reset : change e.reset = (change e).reset := by
  have hempty : ∀ e : Emulator ρ, e.reset = { e.clearTrace with
      machine := e.machine.reset e.config.seed
      breakpoints := Breakpoints.none
      resumeFrom := none } := fun _ => rfl
  rw [hempty, hempty, h.machine, h.seed, ← h.clearTrace]
  rw [h.withResumeFrom { e.clearTrace with
      machine := e.machine.reset e.config.seed
      breakpoints := Breakpoints.none } none,
    h.withBreakpoints { e.clearTrace with machine := e.machine.reset e.config.seed }
      Breakpoints.none,
    h.withMachine e.clearTrace (e.machine.reset e.config.seed)]

/-- A watching change passes through every call, except that it may undo a switch. -/
theorem after {c : Call} (hc : ¬ c.IsSwitch) : change (e.after c) = (change e).after c := by
  cases c with
  | load rom base =>
    simp only [Emulator.after, h.load]
    cases e.load rom base <;> rfl
  | step => simp only [Emulator.after, h.step]
  | run bound => simp only [Emulator.after, h.run]
  | tick =>
    refine (h.withMachine e e.machine.tick).trans ?_
    rw [← h.machine e]
    rfl
  | pressKey number =>
    simp only [Emulator.after, h.pressNumber]
    cases e.pressNumber number <;> rfl
  | clearKeys =>
    refine (h.withMachine e e.machine.clearKeys).trans ?_
    rw [← h.machine e]
    rfl
  | addBreakpoint address =>
    refine (h.withBreakpoints e (e.breakpoints.insert address)).trans ?_
    rw [← h.breakpoints e]
    rfl
  | removeBreakpoint address =>
    refine (h.withBreakpoints e (e.breakpoints.erase address)).trans ?_
    rw [← h.breakpoints e]
    rfl
  | clearBreakpoints => exact h.withBreakpoints e Breakpoints.none
  | setTracing on => exact absurd trivial hc
  | clearTrace => exact h.clearTrace e
  | reset => exact h.reset e

/-- Watched otherwise, an emulator answers the same. -/
theorem answer (c : Call) : (change e).answer c = e.answer c := by
  cases c with
  | load rom base =>
    simp only [Emulator.answer, h.load]
    cases e.load rom base <;> rfl
  | step => simp only [Emulator.answer, h.step]
  | run bound => simp only [Emulator.answer, h.run]
  | pressKey number =>
    simp only [Emulator.answer, h.pressNumber]
    cases e.pressNumber number <;> rfl
  | tick | clearKeys | addBreakpoint _ | removeBreakpoint _ | clearBreakpoints | setTracing _
  | clearTrace | reset => rfl

end Watching

end Emulator

end Chip8
