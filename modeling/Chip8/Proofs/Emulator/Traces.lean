/-
# What is traced

While tracing is on, a call adds to the trace one line for every instruction that it attempts, with
the word and the registers in front of that instruction, and nothing else: a step that waits for a
key attempts none. A run that ends in an error adds one more line for the fault. Which instructions
are attempted is told here by the machine alone.
-/

import Chip8.Proofs.Emulator.Watching

namespace Chip8

namespace Machine

variable {ρ : Type} [RandomSource ρ]

/-- The machine after so many steps, as long as they are executed. -/
def afterSteps : Nat → Machine ρ → Machine ρ
  | 0, m => m
  | count + 1, m =>
    match m.step with
    | .executed after => afterSteps count after
    | _ => m

theorem step_of_ok {m after : Machine ρ} (hfree : m.waiting = false)
    (hexecute : m.execute m.current = .ok after) : m.step = .executed after := by
  rw [step, hfree, hexecute]
  rfl

theorem step_of_error {m : Machine ρ} {fault : Fault} (hfree : m.waiting = false)
    (hexecute : m.execute m.current = .error fault) : m.step = .failed fault := by
  rw [step, hfree, hexecute]
  rfl

theorem afterSteps_succ {m after : Machine ρ} (hstep : m.step = .executed after) (count : Nat) :
    m.afterSteps (count + 1) = after.afterSteps count := by
  rw [afterSteps, hstep]

/-- What the trace shows of the instruction at the program counter. -/
def attempt (m : Machine ρ) : TraceEntry := .attempt (m.memory.readWord m.pc) m.registers

end Machine

/-- An instruction could not be executed. -/
def Answer.isFault : Answer → Bool
  | .stepped (.failed _) | .stopped .error | .stopped (.broken _) => true
  | _ => false

/-- The call empties the trace. -/
def Call.EmptiesTrace : Call → Prop
  | .clearTrace | .reset => True
  | _ => False

namespace Emulator

variable {ρ : Type} [RandomSource ρ]

/-- The number of instructions that a call attempts: those that it executes, and one that it fails
to execute. -/
def attempted (e : Emulator ρ) (c : Call) : Nat :=
  e.executedBy c + (e.answer c).isFault.toNat

/-- The machine in front of every instruction that a call attempts. -/
def attempts (e : Emulator ρ) (c : Call) : List (Machine ρ) :=
  (List.range (e.attempted c)).map fun k => e.machine.afterSteps k

/-- The lines that a call adds to the trace while tracing is on. -/
structure TracesCall (e : Emulator ρ) (c : Call) : Prop where
  /-- tracing stays on -/
  tracing : (e.after c).tracing = true
  emptied : c.EmptiesTrace → (e.after c).trace = #[]
  /-- one line for every instruction that is attempted, in order -/
  attempts : ¬ c.EmptiesTrace → e.answer c ≠ .stopped .error →
    (e.after c).trace.toList = e.trace.toList ++ (e.attempts c).map Machine.attempt
  /-- behind them one line for the fault, if the call is a run that ends in an error -/
  failure : e.answer c = .stopped .error →
    ∃ fault, (e.machine.afterSteps (e.executedBy c)).step = .failed fault ∧
      (e.after c).trace.toList =
        e.trace.toList ++ (e.attempts c).map Machine.attempt ++ [.failure fault]

/-- Tracing is on, and these entries have been added to the trace. -/
structure Gains (e after : Emulator ρ) (entries : List TraceEntry) : Prop where
  tracing : after.tracing = true
  trace : after.trace.toList = e.trace.toList ++ entries

namespace Gains

omit [RandomSource ρ] in
theorem refl {e : Emulator ρ} (htracing : e.tracing = true) : Gains e e [] where
  tracing := htracing
  trace := (List.append_nil _).symm

omit [RandomSource ρ] in
theorem trans {first second third : Emulator ρ} {entries more : List TraceEntry}
    (h : Gains first second entries) (h' : Gains second third more) :
    Gains first third (entries ++ more) where
  tracing := h'.tracing
  trace := by rw [h'.trace, h.trace, List.append_assoc]

omit [RandomSource ρ] in
/-- Only tracing and trace matter. -/
theorem of_eq {e after other : Emulator ρ} {entries : List TraceEntry}
    (h : Gains e after entries) (htracing : other.tracing = after.tracing)
    (htrace : other.trace = after.trace) : Gains e other entries where
  tracing := htracing.trans h.tracing
  trace := by rw [htrace, h.trace]

omit [RandomSource ρ] in
theorem traceAttempt {e : Emulator ρ} (htracing : e.tracing = true) :
    Gains e e.traceAttempt [e.machine.attempt] := by
  unfold Emulator.traceAttempt
  rw [if_pos htracing]
  exact ⟨htracing, Array.toList_push⟩

omit [RandomSource ρ] in
theorem noteFailure {e : Emulator ρ} (htracing : e.tracing = true) (fault : Fault) :
    Gains e (e.noteFailure fault) [.failure fault] := by
  unfold Emulator.noteFailure
  rw [if_pos htracing]
  exact ⟨htracing, Array.toList_push⟩

/-- Executed steps add one line each. -/
theorem steps {e last : Emulator ρ} (htracing : e.tracing = true) {count : Nat}
    (hsteps : Emulator.steps count e = (.executed, last)) :
    last.machine = e.machine.afterSteps count ∧
      Gains e last ((List.range count).map fun k => (e.machine.afterSteps k).attempt) := by
  induction count generalizing e with
  | zero =>
    obtain rfl : e = last := congrArg Prod.snd hsteps
    exact ⟨rfl, refl htracing⟩
  | succ count ih =>
    rcases e.step_cases with ⟨-, hstep⟩ | ⟨machine, hfree, hexecute, hstep⟩ | ⟨fault, -, -, hstep⟩
    · rw [Emulator.steps, hstep] at hsteps
      cases hsteps
    · have hfirst : Gains e { e.traceAttempt with machine } [e.machine.attempt] :=
        (traceAttempt htracing).of_eq rfl rfl
      obtain ⟨hmachine, hrest⟩ :=
        ih hfirst.tracing ((steps_succ_of_executed hstep count).symm.trans hsteps)
      have hnext := Machine.afterSteps_succ (Machine.step_of_ok hfree hexecute)
      refine ⟨hmachine.trans (hnext count).symm, ?_⟩
      rw [List.range_succ_eq_map, List.map_cons, List.map_map]
      simp only [Function.comp_def, hnext]
      exact hfirst.trans hrest
    · rw [Emulator.steps, hstep] at hsteps
      cases hsteps

end Gains

/-- What the end of a run adds to the trace: an attempt, if it fails, and the fault, if that is an
error. -/
theorem Ends.gains {exempted : Option Int} {bound length : Nat} {last : Emulator ρ}
    {result : StopReason × Emulator ρ} (h : Ends exempted bound length last result)
    (htracing : last.tracing = true) :
    (result.1 ≠ .error → Gains last result.2
      (bif (Answer.stopped result.1).isFault then [last.machine.attempt] else [])) ∧
    (result.1 = .error → ∃ fault, last.machine.step = .failed fault ∧
      Gains last result.2 ([last.machine.attempt] ++ [.failure fault])) := by
  cases h with
  | timeout _ | waitKey _ _ =>
    exact ⟨fun _ => .refl htracing, fun herror => absurd herror StopReason.noConfusion⟩
  | breakpoint _ _ _ =>
    exact ⟨fun _ => (Gains.refl htracing).of_eq rfl rfl,
      fun herror => absurd herror StopReason.noConfusion⟩
  | failed _ fault hstep =>
    have hattempt := Gains.traceAttempt htracing
    have hfails : last.machine.step = .failed fault := by
      obtain ⟨hfree, hexecute⟩ := step_failed_iff.1 (congrArg Prod.fst hstep)
      exact Machine.step_of_error hfree hexecute
    cases fault with
    | undrawn reason =>
      exact ⟨fun _ => hattempt, fun herror => absurd herror StopReason.noConfusion⟩
    | stackOverflow limit address | stackUnderflow address =>
      exact ⟨fun hother => absurd rfl hother,
        fun _ => ⟨_, hfails, hattempt.trans (.noteFailure hattempt.tracing _)⟩⟩

/-- The lines of the attempts of a call: those of executed instructions, and that of the one which
is not executed. -/
theorem map_attempts (e : Emulator ρ) (c : Call) :
    (e.attempts c).map Machine.attempt =
      (List.range (e.executedBy c)).map (fun k => (e.machine.afterSteps k).attempt) ++
        bif (e.answer c).isFault then [(e.machine.afterSteps (e.executedBy c)).attempt]
        else [] := by
  unfold attempts attempted
  cases (e.answer c).isFault with
  | true => simp [List.range_succ]
  | false => simp

section Calls

variable {e : Emulator ρ} (htracing : e.tracing = true)
include htracing

/-- A step adds one line, unless it waits. -/
theorem gains_step :
    Gains e (e.after .step) ((e.attempts .step).map Machine.attempt) := by
  rw [map_attempts]
  simp only [after, executedBy, answer]
  rcases e.step_cases with ⟨-, hstep⟩ | ⟨machine, -, -, hstep⟩ | ⟨fault, -, -, hstep⟩
  · rw [hstep]
    exact .refl htracing
  · rw [hstep]
    exact (Gains.traceAttempt htracing).of_eq rfl rfl
  · rw [hstep]
    exact Gains.traceAttempt htracing

/-- A run adds one line for each attempt, and one for the fault if it ends in an error. -/
theorem gains_run (bound : Option Int) :
    (e.answer (.run bound) ≠ .stopped .error →
      Gains e (e.after (.run bound)) ((e.attempts (.run bound)).map Machine.attempt)) ∧
    (e.answer (.run bound) = .stopped .error →
      ∃ fault, (e.machine.afterSteps (e.executedBy (.run bound))).step = .failed fault ∧
        Gains e (e.after (.run bound))
          ((e.attempts (.run bound)).map Machine.attempt ++ [.failure fault])) := by
  rw [map_attempts]
  simp only [after, executedBy, answer]
  obtain ⟨last, hsteps, hends⟩ := e.run_ends ((bound.map Int.toNat).getD defaultBound)
  obtain ⟨hmachine, hforgotten⟩ :=
    Gains.steps (e := { e with resumeFrom := none }) htracing hsteps
  have hexecuted : Gains e last _ := ⟨hforgotten.tracing, hforgotten.trace⟩
  obtain ⟨hother, herror⟩ := hends.gains hexecuted.tracing
  rw [← hmachine]
  generalize e.run ((bound.map Int.toNat).getD defaultBound) = result at hother herror
  refine ⟨fun hne => ?_, fun heq => ?_⟩
  · have hreason : result.1 ≠ .error := fun h => hne (congrArg Answer.stopped h)
    exact hexecuted.trans (hother hreason)
  · have hreason : result.1 = .error := Answer.stopped.inj heq
    obtain ⟨fault, hfails, hgains⟩ := herror hreason
    refine ⟨fault, hfails, ?_⟩
    rw [hreason, List.append_assoc]
    exact hexecuted.trans hgains

omit htracing in
/-- The case of a call that does not end in an error. -/
theorem TracesCall.of_gains {c : Call} (hkeeps : ¬ c.EmptiesTrace)
    (hnot : e.answer c ≠ .stopped .error)
    (hgains : Gains e (e.after c) ((e.attempts c).map Machine.attempt)) : e.TracesCall c where
  tracing := hgains.tracing
  emptied := fun hempties => absurd hempties hkeeps
  attempts := fun _ _ => hgains.trace
  failure := fun herror => absurd herror hnot

/-- A call that attempts nothing leaves the trace alone. -/
theorem TracesCall.of_quiet {c : Call} (hkeeps : ¬ c.EmptiesTrace) (hidle : e.executedBy c = 0)
    (hanswer : (e.answer c).isFault = false) (hon : (e.after c).tracing = e.tracing)
    (hsame : (e.after c).trace = e.trace) : e.TracesCall c := by
  have hnot : e.answer c ≠ .stopped .error := by
    intro herror
    rw [herror] at hanswer
    cases hanswer
  refine .of_gains hkeeps hnot ?_
  rw [map_attempts, hidle, hanswer]
  exact (Gains.refl htracing).of_eq hon hsame

/-- The lines that every call adds, unless it switches tracing off. -/
theorem tracesCall {c : Call} (hon : c ≠ .setTracing false) : e.TracesCall c := by
  cases c with
  | step => exact .of_gains id Answer.noConfusion (gains_step htracing)
  | run bound =>
    obtain ⟨hother, herror⟩ := gains_run htracing bound
    by_cases hended : e.answer (.run bound) = .stopped .error
    · obtain ⟨fault, hfails, hgains⟩ := herror hended
      exact
        { tracing := hgains.tracing
          emptied := False.elim
          attempts := fun _ hnot => absurd hended hnot
          failure := fun _ =>
            ⟨fault, hfails, hgains.trace.trans (List.append_assoc ..).symm⟩ }
    · exact .of_gains id hended (hother hended)
  | load rom base =>
    have hquiet : ((e.load rom base).toOption.getD e).tracing = e.tracing ∧
        ((e.load rom base).toOption.getD e).trace = e.trace := by
      unfold load
      cases e.machine.load rom base <;> exact ⟨rfl, rfl⟩
    have hanswer : (e.answer (.load rom base)).isFault = false := by
      simp only [answer]
      cases e.load rom base <;> rfl
    exact .of_quiet htracing id rfl hanswer hquiet.1 hquiet.2
  | pressKey number =>
    have hquiet := Unmoved.after e (c := .pressKey number) trivial
    have hanswer : (e.answer (.pressKey number)).isFault = false := by
      simp only [answer]
      cases e.pressNumber number <;> rfl
    exact .of_quiet htracing id rfl hanswer hquiet.tracing hquiet.trace
  | setTracing on =>
    cases on with
    | false => exact absurd rfl hon
    | true => exact .of_quiet htracing id rfl rfl htracing.symm rfl
  | tick | clearKeys | addBreakpoint _ | removeBreakpoint _ | clearBreakpoints =>
    exact .of_quiet htracing id rfl rfl rfl rfl
  | clearTrace | reset =>
    exact
      { tracing := htracing
        emptied := fun _ => rfl
        attempts := fun hkeeps _ => absurd trivial hkeeps
        failure := fun herror => Answer.noConfusion herror }

/-- So long as tracing is not switched off, it stays on. -/
theorem tracing_afterAll {calls : List Call} (hon : .setTracing false ∉ calls) :
    (e.afterAll calls).tracing = true := by
  induction calls generalizing e with
  | nil => exact htracing
  | cons c rest ih =>
    rw [List.mem_cons, not_or] at hon
    exact ih (tracesCall htracing (Ne.symm hon.1)).tracing hon.2

end Calls

end Emulator

end Chip8
