/-
# A reset gives back a new emulator

An emulator that has been used and is then reset goes on like one that has just been built with the
same configuration. Used means anything: calls that succeed, fail or are refused, and plain writes
to memory, registers and timers, in range or not. Only three things outlast a reset: the switch of
tracing, the journal, and, if no seed is given, the source of random bytes. Nothing that an emulator
does depends on what its journal holds already, so the journal of a used emulator merely grows by
the events that the new one reports.

A seed is taken to put the source of random bytes in the state that it is built in.
-/

import Chip8.Proofs.Emulator.Watching
import Chip8.Random.Twister

namespace Chip8

/-- What can be written to the parts of a machine directly. -/
inductive Write where
  /-- bytes go to memory from an address on -/
  | memory (address : Int) (bytes : List UInt8)
  | register (x : Reg) (value : Int)
  | index (value : Int)
  | pc (address : Int)
  | stack (addresses : List Int)
  | keyWait (waiting : Option Reg)
  | delay (value : Int)
  | sound (value : Int)
  deriving DecidableEq, Repr

/-- The machine behind a write. Values are not brought into range. -/
def Machine.write {ρ : Type} (m : Machine ρ) : Write → Machine ρ
  | .memory address bytes => { m with memory := m.memory.load address bytes }
  | .register x value => { m with registers := m.registers.set x value }
  | .index value => { m with registers := { m.registers with index := value } }
  | .pc address => { m with registers := { m.registers with pc := address } }
  | .stack addresses => { m with registers := { m.registers with stack := addresses } }
  | .keyWait waiting => { m with registers := { m.registers with keyWait := waiting } }
  | .delay value => { m with timers := m.timers.setDelay value }
  | .sound value => { m with timers := m.timers.setSound value }

theorem Machine.stackLimit_write {ρ : Type} (m : Machine ρ) (w : Write) :
    (m.write w).registers.stackLimit = m.registers.stackLimit := by
  cases w <;> rfl

/-- Anything that can be done to an emulator. -/
inductive Operation where
  | call (c : Call)
  | write (w : Write)
  deriving DecidableEq, Repr

namespace Emulator

variable {ρ : Type} [RandomSource ρ]

/-- The emulator behind an operation. -/
def operate (e : Emulator ρ) : Operation → Emulator ρ
  | .call c => e.after c
  | .write w => { e with machine := e.machine.write w }

/-- The emulator behind operations, one after the other. -/
def operateAll (e : Emulator ρ) (ops : List Operation) : Emulator ρ := ops.foldl operate e

/-- What the emulator answers to an operation. -/
def response (e : Emulator ρ) : Operation → Answer
  | .call c => e.answer c
  | .write _ => .done

/-- What the emulator answers to operations, one after the other. -/
def responses (e : Emulator ρ) : List Operation → List Answer
  | [] => []
  | op :: rest => e.response op :: (e.operate op).responses rest

section Settings

/-- The emulator has this configuration, and the limit on the call stack that it sets. -/
structure HasConfig (given : Config) (e : Emulator ρ) : Prop where
  config : e.config = given
  stackLimit : e.machine.registers.stackLimit = given.stackLimit

namespace HasConfig

variable {given : Config} {e : Emulator ρ} (h : HasConfig given e)
include h

omit [RandomSource ρ] in
theorem of_eq {other : Emulator ρ} (hconfig : other.config = e.config)
    (hlimit : other.machine.registers.stackLimit = e.machine.registers.stackLimit) :
    HasConfig given other where
  config := hconfig.trans h.config
  stackLimit := hlimit.trans h.stackLimit

theorem step : HasConfig given e.step.2 :=
  h.of_eq (by rw [step_eq]) e.stackLimit_step

theorem run (bound : Nat) : HasConfig given (e.run bound).2 := by
  refine run_keep (fun _ hkept => hkept.step) ?_ bound h
  intro _ _ hmachine hconfig hkept
  exact hkept.of_eq hconfig (congrArg (fun m => m.registers.stackLimit) hmachine)

omit [RandomSource ρ] in
theorem load (rom : List UInt8) (base : Int) :
    HasConfig given (((e.load rom base).toOption).getD e) := by
  unfold Emulator.load Machine.load
  by_cases hroom : Machine.room base < rom.length
  · rw [if_pos hroom]
    exact h
  · rw [if_neg hroom]
    exact h.of_eq rfl rfl

omit [RandomSource ρ] in
theorem pressKey (key : Nibble) : HasConfig given (e.pressKey key) := by
  unfold Emulator.pressKey Machine.pressKey
  cases e.machine.registers.keyWait <;> exact h.of_eq rfl rfl

/-- Calls do not change the settings. -/
theorem after (c : Call) : HasConfig given (e.after c) := by
  cases c with
  | load rom base => exact h.load rom base
  | step => exact h.step
  | run bound => exact h.run _
  | pressKey number =>
    simp only [Emulator.after, pressNumber]
    cases keyOf number with
    | error _ => exact h
    | ok key => exact h.pressKey key
  | tick | clearKeys | addBreakpoint _ | removeBreakpoint _ | clearBreakpoints | setTracing _
  | clearTrace | reset => exact h.of_eq rfl rfl

theorem operate (op : Operation) : HasConfig given (e.operate op) := by
  cases op with
  | call c => exact h.after c
  | write w => exact h.of_eq rfl (e.machine.stackLimit_write w)

theorem operateAll (ops : List Operation) : HasConfig given (e.operateAll ops) := by
  induction ops generalizing e with
  | nil => exact h
  | cons op rest ih => exact ih (h.operate op)

end HasConfig

omit [RandomSource ρ] in
theorem hasConfig_initial (config : Config) (random : ρ) :
    HasConfig config (initial config random) where
  config := rfl
  stackLimit := rfl

end Settings

section Journal

/-- The emulator with earlier events in front of its journal. -/
def behind (e : Emulator ρ) (earlier : Array Event) : Emulator ρ :=
  { e with journal := earlier ++ e.journal }

omit [RandomSource ρ] in
theorem report_behind (e : Emulator ρ) (earlier : Array Event) (event : Event) :
    (e.report event).behind earlier = (e.behind earlier).report event := by
  simp only [behind, report, Array.push_append]

omit [RandomSource ρ] in
/-- What the journal holds already is of no account. -/
theorem watching_behind (earlier : Array Event) :
    Watching fun e : Emulator ρ => e.behind earlier where
  machine := fun _ => rfl
  seed := fun _ => rfl
  breakpoints := fun _ => rfl
  resumeFrom := fun _ => rfl
  withMachine := fun _ _ => rfl
  withBreakpoints := fun _ _ => rfl
  withResumeFrom := fun _ _ => rfl
  report := fun e event _ => e.report_behind earlier event
  traceAttempt := by
    intro e
    unfold Emulator.traceAttempt
    by_cases htracing : e.tracing = true
    · have hbehind : (e.behind earlier).tracing = true := htracing
      simp only [if_pos htracing, if_pos hbehind]
      exact report_behind _ earlier _
    · have hbehind : ¬ (e.behind earlier).tracing = true := htracing
      simp only [if_neg htracing, if_neg hbehind]
  noteFailure := by
    intro e fault
    unfold Emulator.noteFailure
    have hreport := e.report_behind earlier
      (.runFailed fault e.pc e.currentWord (decode e.currentWord))
    by_cases htracing : e.tracing = true
    · have hbehind : (e.behind earlier).tracing = true := htracing
      simp only [if_pos htracing, if_pos hbehind]
      exact congrArg (fun r => { r with trace := r.trace.push (.failure fault) }) hreport
    · have hbehind : ¬ (e.behind earlier).tracing = true := htracing
      simp only [if_neg htracing, if_neg hbehind]
      exact hreport
  clearTrace := fun _ => rfl

theorem operate_behind (e : Emulator ρ) (earlier : Array Event) (op : Operation) :
    (e.behind earlier).operate op = (e.operate op).behind earlier := by
  cases op with
  | write w => rfl
  | call c =>
    by_cases hswitch : c.IsSwitch
    · cases c with
      | setTracing on => rfl
      | _ => exact absurd hswitch id
    · exact ((watching_behind earlier).after e hswitch).symm

theorem response_behind (e : Emulator ρ) (earlier : Array Event) (op : Operation) :
    (e.behind earlier).response op = e.response op := by
  cases op with
  | write w => rfl
  | call c => exact (watching_behind earlier).answer e c

theorem operateAll_behind (e : Emulator ρ) (earlier : Array Event) (ops : List Operation) :
    (e.behind earlier).operateAll ops = (e.operateAll ops).behind earlier := by
  induction ops generalizing e with
  | nil => rfl
  | cons op rest ih =>
    have hrest := ih (e.operate op)
    rw [← operate_behind] at hrest
    exact hrest

theorem responses_behind (e : Emulator ρ) (earlier : Array Event) (ops : List Operation) :
    (e.behind earlier).responses ops = e.responses ops := by
  induction ops generalizing e with
  | nil => rfl
  | cons op rest ih => rw [responses, responses, response_behind, operate_behind, ih]

end Journal

/-- From its reset on a used emulator does what a new one does. -/
structure ResetsTo (new used : Emulator ρ) (later : List Operation) : Prop where
  /-- every operation is answered alike -/
  responses : used.reset.responses later = new.responses later
  /-- the emulators are the same in every part, and the events of the new one stand behind those
  that the used one has reported before -/
  state : used.reset.operateAll later = (new.operateAll later).behind used.journal

/-- The state behind a reset. -/
theorem reset_eq {config : Config} {e : Emulator ρ} (h : HasConfig config e)
    (htracing : e.tracing = config.trace) :
    e.reset = (initial config (e.machine.reset config.seed).random).behind e.journal := by
  have hregisters : e.machine.registers.reset = Registers.initial config.stackLimit :=
    congrArg Registers.initial h.stackLimit
  unfold reset behind initial Machine.initial
  rw [h.config, htracing, ← hregisters, Array.append_empty]
  rfl

/-- An emulator that has been used in any way and is then reset answers every further row of
operations like a new one with the same configuration, and is in the same states. Without a seed the
source of random bytes goes on from where it was. -/
theorem resetsTo_initial (config : Config) (random : ρ) (build : Int → ρ)
    (hreseed : ∀ seed source, RandomSource.reseed seed source = build seed)
    (before later : List Operation)
    (htracing : ((initial config random).operateAll before).tracing = config.trace) :
    (∀ seed, config.seed = some seed →
      ResetsTo (initial config (build seed)) ((initial config random).operateAll before) later) ∧
    (config.seed = none →
      ResetsTo (initial config ((initial config random).operateAll before).machine.random)
        ((initial config random).operateAll before) later) := by
  have hconfig := (hasConfig_initial config random).operateAll before
  generalize (initial config random).operateAll before = used at htracing hconfig ⊢
  have hreset := reset_eq hconfig htracing
  refine ⟨fun seed hseed => ?_, fun hseed => ?_⟩
  · have hrandom : (used.machine.reset (some seed)).random = build seed := hreseed seed _
    rw [hseed, hrandom] at hreset
    exact ⟨by rw [hreset, responses_behind], by rw [hreset, operateAll_behind]⟩
  · have hrandom : (used.machine.reset none).random = used.machine.random := rfl
    rw [hseed, hrandom] at hreset
    exact ⟨by rw [hreset, responses_behind], by rw [hreset, operateAll_behind]⟩

/-- A configuration with everything that a reset has to bring back. -/
def repeatable : Config := { seed := some 7, trace := true, stackLimit := some 2 }

/-- A program draws a byte, stops in front of a breakpoint and waits for a key; another one calls
itself until the call stack is full. In between, parts are written out of range. -/
def muchUsed : List Operation :=
  [.call (.load [0xC0, 0xFF, 0xF1, 0x0A] 0x200), .call (.addBreakpoint 0x202),
    .call (.run (some 9)), .call (.pressKey 5), .call .step, .write (.register (fourBits 3) 300),
    .write (.delay (-2)), .write (.memory 0xFFF [1, 2]), .call (.setTracing false),
    .call (.load [0x22, 0x00] 0x200), .call (.run none), .write (.stack [1, 2, 3]),
    .call (.setTracing true)]

/-- A byte is drawn again, and a call returns from nowhere. -/
def usedAgain : List Operation :=
  [.call (.load [0xC0, 0xFF, 0x00, 0xEE] 0x200), .call (.run (some 5)), .call .tick]

theorem resetsTo_initial_muchUsed :
    ((∀ (seed : Int) (source : Twister), RandomSource.reseed seed source = Twister.ofSeed seed) ∧
        ((initial repeatable (Twister.ofSeed 7)).operateAll muchUsed).tracing = repeatable.trace) ∧
      ResetsTo (initial repeatable (Twister.ofSeed 7))
        ((initial repeatable (Twister.ofSeed 7)).operateAll muchUsed) usedAgain := by
  have hreseed : ∀ (seed : Int) (source : Twister),
      RandomSource.reseed seed source = Twister.ofSeed seed := fun _ _ => rfl
  have htracing : ((initial repeatable (Twister.ofSeed 7)).operateAll muchUsed).tracing =
      repeatable.trace := rfl
  have hresets := resetsTo_initial repeatable (Twister.ofSeed 7) Twister.ofSeed hreseed muchUsed
    usedAgain htracing
  exact ⟨⟨hreseed, htracing⟩, hresets.1 7 rfl⟩

end Emulator

end Chip8
