/-
# What a step of the emulator does

A step of the emulator is a step of its machine with a trace of the attempt. The case analysis
below says everything that one step can do, so that facts about steps need not open the machine.
-/

import Chip8.Emulator.Run

namespace Chip8

namespace Emulator

variable {ρ : Type} [RandomSource ρ]

omit [RandomSource ρ] in
/-- Tracing an attempt shows in the trace and in the journal only. -/
theorem traceAttempt_eq (e : Emulator ρ) :
    e.traceAttempt =
      { e with trace := e.traceAttempt.trace, journal := e.traceAttempt.journal } := by
  unfold traceAttempt
  split <;> rfl

section Outcomes

variable {e : Emulator ρ}

theorem step_of_waiting (hwaiting : e.machine.waiting = true) : e.step = (.waiting, e) := by
  rw [step, Machine.step, hwaiting]
  rfl

theorem step_of_ok {machine : Machine ρ} (hfree : e.machine.waiting = false)
    (hexecute : e.machine.execute e.machine.current = .ok machine) :
    e.step = (.executed, { e.traceAttempt with machine }) := by
  rw [step, Machine.step, hfree, hexecute]
  rfl

/-- An instruction that can be executed is executed when it is the one at the program counter. -/
theorem step_of_current {i : Instruction} {machine : Machine ρ} (hfree : e.machine.waiting = false)
    (hcurrent : e.machine.current = i) (hexecute : e.machine.execute i = .ok machine) :
    e.step = (.executed, { e.traceAttempt with machine }) :=
  step_of_ok hfree (by rw [hcurrent, hexecute])

theorem step_of_error {fault : Fault} (hfree : e.machine.waiting = false)
    (hexecute : e.machine.execute e.machine.current = .error fault) :
    e.step = (.failed fault, e.traceAttempt) := by
  rw [step, Machine.step, hfree, hexecute]
  rfl

end Outcomes

/-- What one step of the emulator does: nothing while a register waits for a key, otherwise it
traces the attempt and takes over what the machine makes of the instruction. -/
theorem step_cases (e : Emulator ρ) :
    (e.machine.waiting = true ∧ e.step = (.waiting, e)) ∨
      (∃ machine, e.machine.waiting = false ∧
        e.machine.execute e.machine.current = .ok machine ∧
        e.step = (.executed, { e.traceAttempt with machine })) ∨
      (∃ fault, e.machine.waiting = false ∧
        e.machine.execute e.machine.current = .error fault ∧
        e.step = (.failed fault, e.traceAttempt)) := by
  cases hwaiting : e.machine.waiting with
  | true => exact .inl ⟨rfl, step_of_waiting hwaiting⟩
  | false =>
    cases hexecute : e.machine.execute e.machine.current with
    | ok machine => exact .inr (.inl ⟨machine, rfl, rfl, step_of_ok hwaiting hexecute⟩)
    | error fault => exact .inr (.inr ⟨fault, rfl, rfl, step_of_error hwaiting hexecute⟩)

theorem step_failed_iff {e : Emulator ρ} {fault : Fault} :
    e.step.1 = .failed fault ↔
      e.machine.waiting = false ∧ e.machine.execute e.machine.current = .error fault := by
  constructor
  · intro hfails
    rcases e.step_cases with ⟨-, hstep⟩ | ⟨_, -, -, hstep⟩ | ⟨cause, hfree, hexecute, hstep⟩
    · rw [hstep] at hfails
      cases hfails
    · rw [hstep] at hfails
      cases hfails
    · rw [hstep] at hfails
      obtain rfl := StepResult.failed.inj hfails
      exact ⟨hfree, hexecute⟩
  · rintro ⟨hfree, hexecute⟩
    rw [step_of_error hfree hexecute]

/-- A step that fails leaves nothing but the trace of its attempt. -/
theorem step_of_failed {e : Emulator ρ} {fault : Fault} (hfails : e.step.1 = .failed fault) :
    e.step = (.failed fault, e.traceAttempt) :=
  have hcause := step_failed_iff.1 hfails
  step_of_error hcause.1 hcause.2

/-- A step leaves the machine as it is, or executes the instruction at the program counter. -/
theorem machine_step_cases (e : Emulator ρ) :
    e.step.2.machine = e.machine ∨ e.machine.execute e.machine.current = .ok e.step.2.machine := by
  rcases e.step_cases with ⟨-, hstep⟩ | ⟨machine, -, hexecute, hstep⟩ | ⟨fault, -, -, hstep⟩
  · exact .inl (by rw [hstep])
  · exact .inr (by rw [hstep, hexecute])
  · exact .inl (by rw [hstep, traceAttempt_eq])

/-- A step shows in the machine, in the trace and in the journal only. -/
theorem step_eq (e : Emulator ρ) :
    e.step.2 = { e with
      machine := e.step.2.machine, trace := e.step.2.trace, journal := e.step.2.journal } := by
  rcases e.step_cases with ⟨-, hstep⟩ | ⟨machine, -, -, hstep⟩ | ⟨fault, -, -, hstep⟩
  · rw [hstep]
  · rw [hstep, traceAttempt_eq]
  · rw [hstep, traceAttempt_eq]

/-- What every step keeps, steps keep. -/
theorem steps_keep {P : Emulator ρ → Prop} (hstep : ∀ e, P e → P e.step.2) {e : Emulator ρ}
    (count : Nat) (h : P e) : P (steps count e).2 := by
  induction count generalizing e with
  | zero => exact h
  | succ count ih =>
    have hnext := hstep e h
    unfold steps
    split
    · rename_i after heq
      rw [heq] at hnext
      exact ih hnext
    · exact hnext

omit [RandomSource ρ] in
/-- The report of a failure shows in the trace and in the journal only. -/
theorem stopAt_eq (e : Emulator ρ) (fault : Fault) :
    (e.stopAt fault).1 ≠ .breakpoint ∧ (e.stopAt fault).2 =
      { e with trace := (e.stopAt fault).2.trace, journal := (e.stopAt fault).2.journal } := by
  unfold stopAt
  split
  · exact ⟨StopReason.noConfusion, rfl⟩
  · refine ⟨StopReason.noConfusion, ?_⟩
    unfold noteFailure
    simp only
    split <;> rfl

end Emulator

end Chip8
