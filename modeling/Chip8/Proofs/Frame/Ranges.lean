/-
# Frames keep the machine in range

Among the acts of a frame no ROM is loaded, so a machine in range stays in range, and of such a
machine no frame is broken off.
-/

import Chip8.Proofs.Frame.Ticks

namespace Chip8

/-- The act loads no ROM out of range. -/
def Act.BaseInRange : Act → Prop
  | .call c => c.BaseInRange
  | .report _ => True

namespace Emulator

variable {ρ : Type} [RandomSource ρ] {e : Emulator ρ}

theorem InRange.performAll (h : e.InRange) {acts : List Act}
    (hbases : ∀ act ∈ acts, act.BaseInRange) : (e.performAll acts).InRange := by
  induction acts generalizing e with
  | nil => exact h
  | cons act rest ih =>
    have hrest := fun other hmem => hbases other (List.mem_cons_of_mem act hmem)
    have hbase := hbases act List.mem_cons_self
    cases act with
    | call c => exact ih (h.after hbase) hrest
    | report event => exact ih (h.of_eq rfl rfl) hrest

/-- Of a machine in range no step is broken off. -/
theorem InRange.step_ne_undrawn (h : e.InRange) (reason : DrawError) :
    e.step.1 ≠ .failed (.undrawn reason) := by
  intro hstep
  rcases fault_of_step h.registers hstep with ⟨address, hfault⟩ | ⟨limit, address, hfault⟩
  · cases hfault
  · cases hfault

/-- Of a machine in range no run is broken off. -/
theorem InRange.run_ne_broken (h : e.InRange) (bound : Nat) (reason : DrawError) :
    (e.run bound).1 ≠ .broken reason := by
  intro hbroken
  obtain ⟨last, hsteps, hends⟩ := e.run_ends bound
  have hlast : last.InRange := by
    have hkept := steps_keep (fun _ hrange => InRange.step hrange) (e.runLength bound)
      (h.of_eq rfl rfl : InRange { e with resumeFrom := none })
    rwa [hsteps] at hkept
  generalize e.run bound = result at hbroken hends
  cases hends with
  | timeout _ | breakpoint _ _ _ | waitKey _ _ => cases hbroken
  | failed _ fault hstep =>
    cases fault with
    | undrawn cause => exact hlast.step_ne_undrawn cause (congrArg Prod.fst hstep)
    | stackOverflow _ _ | stackUnderflow _ => cases hbroken

end Emulator

namespace FrameLoop

variable {ρ : Type}

theorem baseInRange_beginActs (l : FrameLoop ρ) : ∀ act ∈ l.beginActs, act.BaseInRange := by
  unfold beginActs
  split <;> simp [Act.BaseInRange, Call.BaseInRange]

theorem baseInRange_inputActs (l : FrameLoop ρ) (input : Input) :
    ∀ act ∈ l.inputActs input, act.BaseInRange := by
  cases input with
  | key k =>
    unfold inputActs
    cases l.running <;> simp [Act.BaseInRange, Call.BaseInRange]
  | togglePause => simp [inputActs, Act.BaseInRange]
  | step | quit => exact List.forall_mem_nil _

theorem baseInRange_inputsActs (l : FrameLoop ρ) (inputs : List Input) :
    ∀ act ∈ l.inputsActs inputs, act.BaseInRange := by
  induction inputs generalizing l with
  | nil => exact List.forall_mem_nil _
  | cons input rest ih =>
    exact List.forall_mem_append.2 ⟨l.baseInRange_inputActs input, ih (l.applyInput input)⟩

variable [RandomSource ρ]

theorem baseInRange_advanceActs (l : FrameLoop ρ) (stepRequested : Bool) :
    ∀ act ∈ l.advanceActs stepRequested, act.BaseInRange := by
  unfold advanceActs runActs stepActs
  split
  · split <;> simp [Act.BaseInRange, Call.BaseInRange]
  · split
    · split <;> simp [Act.BaseInRange, Call.BaseInRange]
    · exact List.forall_mem_nil _

theorem inRange_applied {l : FrameLoop ρ} (h : l.emulator.InRange) :
    l.applied.emulator.InRange := by
  rw [applied, emulator_applyInputs, emulator_beginFrame]
  exact (h.performAll l.baseInRange_beginActs).performAll (baseInRange_inputsActs _ _)

theorem inRange_frame {l : FrameLoop ρ} (h : l.emulator.InRange) : l.frame.2.emulator.InRange := by
  rw [(frame_eq_advance l).2, emulator_advance]
  exact (inRange_applied h).performAll (baseInRange_advanceActs _ _)

/-- Of a machine in range no frame is broken off. -/
theorem frame_ne_broken {l : FrameLoop ρ} (h : l.emulator.InRange) (reason : DrawError) :
    l.frame.1 ≠ some (.broken reason) := by
  rw [(frame_eq_advance l).1]
  have happlied := inRange_applied h
  generalize l.applied = m at happlied
  unfold advance
  by_cases hrunning : m.running = true
  · rw [if_pos hrunning]
    have hrun := happlied.run_ne_broken m.stepsPerFrame.toNat reason
    unfold runSteps
    generalize m.emulator.run m.stepsPerFrame.toNat = result at hrun
    obtain ⟨ended, after⟩ := result
    cases ended with
    | broken cause => exact fun heq => hrun (Option.some.inj heq)
    | timeout | breakpoint | waitKey | error => rintro ⟨⟩
  · rw [if_neg hrunning]
    cases l.frontend.inputs.contains .step with
    | false => rintro ⟨⟩
    | true =>
      have hstep := happlied.step_ne_undrawn reason
      rw [if_pos rfl]
      unfold singleStep
      generalize m.emulator.step = result at hstep
      obtain ⟨result, after⟩ := result
      cases result with
      | executed | waiting => rintro ⟨⟩
      | failed fault =>
        cases fault with
        | undrawn cause =>
          rintro ⟨⟩
          exact hstep rfl
        | stackOverflow _ _ | stackUnderflow _ => rintro ⟨⟩

end FrameLoop

end Chip8
