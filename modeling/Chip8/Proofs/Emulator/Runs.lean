/-
# What a run of the emulator does

A run executes instructions, and their number is its length. Then its bound is reached, or something
stops it in front of the next instruction. The case analysis of the end, at the state that the
executed instructions lead to, says everything that a run can come to, so that facts about runs need
not follow its recursion.
-/

import Chip8.Proofs.Emulator.Steps

namespace Chip8

namespace Emulator

variable {ρ : Type} [RandomSource ρ]

/-- The number of instructions that the steps of a run execute. -/
def runLengthFrom (exempted : Option Int) : Nat → Emulator ρ → Nat
  | 0, _ => 0
  | bound + 1, e =>
    if e.breakpoints.contains e.pc && exempted != some e.pc then 0
    else match e.step with
      | (.executed, after) => runLengthFrom none bound after + 1
      | _ => 0

/-- The number of instructions that a run of at most so many steps executes. -/
def runLength (e : Emulator ρ) (bound : Nat) : Nat :=
  runLengthFrom e.resumeFrom bound { e with resumeFrom := none }

/-- How a run of at most `bound` steps ends once it has executed `length` instructions, at the state
that these lead to. -/
inductive Ends (exempted : Option Int) (bound length : Nat) (e : Emulator ρ) :
    StopReason × Emulator ρ → Prop
  | timeout (hlength : length = bound) : Ends exempted bound length e (.timeout, e)
  | breakpoint (hlength : length < bound) (hcontains : e.breakpoints.contains e.pc = true)
      (hexempted : length = 0 → exempted ≠ some e.pc) :
      Ends exempted bound length e (.breakpoint, e.noteBreakpoint)
  | waitKey (hlength : length < bound) (hwaiting : e.machine.waiting = true) :
      Ends exempted bound length e (.waitKey, e)
  | failed (hlength : length < bound) (fault : Fault)
      (hstep : e.step = (.failed fault, e.traceAttempt)) :
      Ends exempted bound length e (e.traceAttempt.stopAt fault)

/-- Behind its first instruction a run exempts no breakpoint. -/
theorem Ends.succ {exempted : Option Int} {bound length : Nat} {e : Emulator ρ}
    {result : StopReason × Emulator ρ} (h : Ends none bound length e result) :
    Ends exempted (bound + 1) (length + 1) e result := by
  cases h with
  | timeout hlength => exact .timeout (by omega)
  | breakpoint hlength hcontains _ => exact .breakpoint (by omega) hcontains (by omega)
  | waitKey hlength hwaiting => exact .waitKey (by omega) hwaiting
  | failed hlength fault hstep => exact .failed (by omega) fault hstep

theorem steps_succ_of_executed {e after : Emulator ρ} (hstep : e.step = (.executed, after))
    (count : Nat) : steps (count + 1) e = steps count after := by
  rw [steps, hstep]

/-- All instructions of a run are executed, and where they lead it ends. -/
theorem runFrom_ends (exempted : Option Int) (bound : Nat) (e : Emulator ρ) :
    ∃ last, steps (runLengthFrom exempted bound e) e = (.executed, last) ∧
      Ends exempted bound (runLengthFrom exempted bound e) last (runFrom exempted bound e) := by
  induction bound generalizing e exempted with
  | zero => exact ⟨e, rfl, .timeout rfl⟩
  | succ bound ih =>
    unfold runLengthFrom runFrom
    by_cases hstops : (e.breakpoints.contains e.pc && exempted != some e.pc) = true
    · simp only [hstops, ↓reduceIte]
      simp only [Bool.and_eq_true, bne_iff_ne, ne_eq] at hstops
      exact ⟨e, rfl, .breakpoint (Nat.succ_pos bound) hstops.1 fun _ => hstops.2⟩
    · simp only [hstops, Bool.false_eq_true, ↓reduceIte]
      rcases e.step_cases with ⟨hwaiting, hstep⟩ | ⟨machine, -, -, hstep⟩ | ⟨fault, -, -, hstep⟩
      · simp only [hstep]
        exact ⟨e, rfl, .waitKey (Nat.succ_pos bound) hwaiting⟩
      · obtain ⟨last, hsteps, hends⟩ := ih none { e.traceAttempt with machine }
        simp only [hstep]
        exact ⟨last, (steps_succ_of_executed hstep _).trans hsteps, hends.succ⟩
      · simp only [hstep]
        exact ⟨e, rfl, .failed (Nat.succ_pos bound) fault hstep⟩

/-- The case analysis of a run. -/
theorem run_ends (e : Emulator ρ) (bound : Nat) :
    ∃ last, steps (e.runLength bound) { e with resumeFrom := none } = (.executed, last) ∧
      Ends e.resumeFrom bound (e.runLength bound) last (e.run bound) :=
  runFrom_ends e.resumeFrom bound { e with resumeFrom := none }

theorem resumeFrom_step (e : Emulator ρ) : e.step.2.resumeFrom = e.resumeFrom := by
  rw [step_eq]

/-- What the end of a run leaves as the executed instructions have made it. -/
theorem Ends.settings {exempted : Option Int} {bound length : Nat} {e : Emulator ρ}
    {result : StopReason × Emulator ρ} (h : Ends exempted bound length e result) :
    result.2.machine = e.machine ∧ result.2.config = e.config ∧
      result.2.breakpoints = e.breakpoints := by
  cases h with
  | timeout _ | breakpoint _ _ _ | waitKey _ _ => exact ⟨rfl, rfl, rfl⟩
  | failed _ fault _ =>
    rw [(stopAt_eq e.traceAttempt fault).2, traceAttempt_eq]
    exact ⟨rfl, rfl, rfl⟩

/-- What steps keep, and what depends on the machine and its configuration alone, a run keeps. -/
theorem run_keep {P : Emulator ρ → Prop} (hstep : ∀ e, P e → P e.step.2)
    (hsame : ∀ e other : Emulator ρ, other.machine = e.machine → other.config = e.config →
      P e → P other) {e : Emulator ρ} (bound : Nat) (h : P e) : P (e.run bound).2 := by
  obtain ⟨last, hsteps, hends⟩ := e.run_ends bound
  have hstart : P { e with resumeFrom := none } := hsame e _ rfl rfl h
  have hlast : P last := by
    have hkept := steps_keep hstep (e.runLength bound) hstart
    rwa [hsteps] at hkept
  obtain ⟨hmachine, hconfig, -⟩ := hends.settings
  exact hsame last _ hmachine hconfig hlast

/-- A run remembers the breakpoint that stopped it, and forgets any other. -/
theorem resumeFrom_run (e : Emulator ρ) (bound : Nat) :
    (e.run bound).2.resumeFrom =
      if (e.run bound).1 = .breakpoint then some (e.run bound).2.pc else none := by
  obtain ⟨last, hsteps, hends⟩ := e.run_ends bound
  have hnone : last.resumeFrom = none := by
    have hforgotten :
        (steps (e.runLength bound) { e with resumeFrom := none }).2.resumeFrom = none :=
      steps_keep (P := fun after => after.resumeFrom = none)
        (fun after hafter => after.resumeFrom_step.trans hafter) _ rfl
    rwa [hsteps] at hforgotten
  generalize e.run bound = result at hends
  cases hends with
  | timeout _ | waitKey _ _ => exact hnone
  | breakpoint _ _ _ => rfl
  | failed _ fault _ =>
    obtain ⟨hreason, heq⟩ := stopAt_eq last.traceAttempt fault
    rw [if_neg hreason, heq, traceAttempt_eq]
    exact hnone

/-- A run that stops at a breakpoint stands at one. -/
theorem contains_of_run_eq_breakpoint {e : Emulator ρ} {bound : Nat}
    (h : (e.run bound).1 = .breakpoint) :
    (e.run bound).2.breakpoints.contains (e.run bound).2.pc = true := by
  obtain ⟨last, -, hends⟩ := e.run_ends bound
  generalize e.run bound = result at h hends
  cases hends with
  | timeout _ | waitKey _ _ => cases h
  | breakpoint _ hcontains _ => exact hcontains
  | failed _ fault _ => exact absurd h (stopAt_eq last.traceAttempt fault).1

/-- A run that executes nothing ends where it starts. -/
theorem ends_of_idle {e : Emulator ρ} {bound : Nat} (h : e.runLength bound = 0) :
    Ends e.resumeFrom bound 0 { e with resumeFrom := none } (e.run bound) := by
  obtain ⟨last, hsteps, hends⟩ := e.run_ends bound
  rw [h] at hsteps hends
  obtain rfl : { e with resumeFrom := none } = last := congrArg Prod.snd hsteps
  exact hends

theorem idle_run {e : Emulator ρ} {bound : Nat} (h : e.runLength bound = 0) :
    (e.run bound).2.machine = e.machine ∧ (e.run bound).2.breakpoints = e.breakpoints :=
  have hends := ends_of_idle h
  ⟨hends.settings.1, hends.settings.2.2⟩

/-- A run stops at once at a breakpoint that it does not resume from. -/
theorem run_eq_breakpoint_at_once_iff (e : Emulator ρ) (bound : Nat) :
    ((e.run bound).1 = .breakpoint ∧ e.runLength bound = 0) ↔
      0 < bound ∧ e.breakpoints.contains e.pc = true ∧ e.resumeFrom ≠ some e.pc := by
  constructor
  · rintro ⟨hbreak, hidle⟩
    have hends := ends_of_idle hidle
    generalize e.run bound = result at hbreak hends
    cases hends with
    | timeout _ | waitKey _ _ => cases hbreak
    | breakpoint hbound hcontains hexempted => exact ⟨hbound, hcontains, hexempted rfl⟩
    | failed _ fault _ => exact absurd hbreak (stopAt_eq _ fault).1
  · rintro ⟨hbound, hcontains, hresume⟩
    have hstops : (e.breakpoints.contains e.pc && e.resumeFrom != some e.pc) = true := by
      rw [hcontains, bne_iff_ne.2 hresume]
      rfl
    cases bound with
    | zero => exact absurd hbound (Nat.lt_irrefl 0)
    | succ bound => exact ⟨congrArg Prod.fst (if_pos hstops), if_pos hstops⟩

end Emulator

end Chip8
