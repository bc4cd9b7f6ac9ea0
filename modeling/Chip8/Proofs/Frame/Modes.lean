/-
# Mode and keys of a frame

A frame applies its inputs and then makes its steps. The inputs settle the mode and the keys: every
request to pause or resume switches the mode, and every key joins the others or replaces them. What
the frame executes behind them changes no key, and switches the mode only where it meets a
breakpoint, which pauses. A register that waits for a key has it before anything is executed.
-/

import Mathlib.Logic.Function.Iterate
import Chip8.Proofs.Frame.Inputs

namespace Chip8

namespace Machine

variable {ρ : Type} [RandomSource ρ]

/-- No instruction presses a key or lets one come up. -/
theorem keypad_of_execute {m after : Machine ρ} {i : Instruction}
    (hexecute : m.execute i = .ok after) : after.keypad = m.keypad := by
  cases i with
  | call nnn =>
    simp only [execute] at hexecute
    split at hexecute
    · obtain rfl := Except.ok.inj hexecute
      rfl
    · cases hexecute
  | ret =>
    simp only [execute] at hexecute
    split at hexecute
    · obtain rfl := Except.ok.inj hexecute
      rfl
    · cases hexecute
  | drw x y n =>
    simp only [execute, drawSprite] at hexecute
    split at hexecute
    · obtain rfl := Except.ok.inj hexecute
      rfl
    · cases hexecute
  | loadRegs x => rw [← Except.ok.inj hexecute, withRegisters]
  | _ =>
    obtain rfl := Except.ok.inj hexecute
    rfl

end Machine

namespace Emulator

variable {ρ : Type} [RandomSource ρ]

theorem keypad_step (e : Emulator ρ) : e.step.2.machine.keypad = e.machine.keypad := by
  rcases e.machine_step_cases with hsame | hexecute
  · rw [hsame]
  · exact Machine.keypad_of_execute hexecute

/-- No run presses a key or lets one come up. -/
theorem keypad_run (e : Emulator ρ) (bound : Nat) :
    (e.run bound).2.machine.keypad = e.machine.keypad := by
  refine run_keep (P := fun after => after.machine.keypad = e.machine.keypad) ?_ ?_ bound rfl
  · exact fun after hafter => after.keypad_step.trans hafter
  · intro after other hmachine _ hafter
    rw [hmachine, hafter]

end Emulator

namespace FrameLoop

variable {ρ : Type}

/-- Inputs switch the mode once for each of them that pauses or resumes. -/
theorem running_applyInputs_eq_iterate (l : FrameLoop ρ) (inputs : List Input) :
    (inputs.foldl applyInput l).running = not^[inputs.count .togglePause] l.running := by
  induction inputs generalizing l with
  | nil => rfl
  | cons input rest ih =>
    rw [List.foldl_cons, ih, running_applyInput]
    by_cases htoggle : input = .togglePause
    · rw [if_pos htoggle, htoggle, List.count_cons_self, Function.iterate_succ_apply]
    · rw [if_neg htoggle, List.count_cons_of_ne htoggle]

variable [RandomSource ρ]

/-- The mode and the keys that a frame ends with, and the register that waits for a key. -/
structure SettlesModeAndKeys (l : FrameLoop ρ) : Prop where
  /-- each input that pauses or resumes switches the mode -/
  mode_applied : l.applied.running = not^[l.toggles] l.running
  /-- behind the inputs only a breakpoint switches it -/
  mode : l.frame.2.running = if l.frame.1 = some .breakpoint then false else l.applied.running
  /-- a frame that starts running starts without keys -/
  keys : l.frame.2.emulator.machine.keypad =
    (if l.running then Keypad.initial else l.emulator.machine.keypad).afterInputs l.running
      l.frontend.inputs
  keys_of_running : l.running = true → .togglePause ∉ l.frontend.inputs → ∀ k : Nibble,
    l.frame.2.emulator.machine.keypad.isPressed k = true ↔ .key k ∈ l.frontend.inputs
  keys_of_paused : l.running = false → .togglePause ∉ l.frontend.inputs →
    l.frame.2.emulator.machine.keypad =
      ((Input.keys l.frontend.inputs).getLast?.map Keypad.initial.press).getD
        l.emulator.machine.keypad
  /-- of the machine the inputs reach the keys and the register that waits, and nothing else -/
  reached : l.applied.emulator.machine =
    { (if l.running then l.emulator.machine.tick else l.emulator.machine) with
      registers := l.emulator.machine.registers.answered (Input.keys l.frontend.inputs)
      keypad := l.applied.emulator.machine.keypad }
  /-- what the frame executes, it executes behind its inputs -/
  proceeds : l.frame.2.emulator =
    (l.applied.advance (l.frontend.inputs.contains .step)).2.emulator
  executing : l.frame.2.emulator.machine.keypad = l.applied.emulator.machine.keypad
  /-- a register that waits takes the first key and waits no longer; later keys leave it alone -/
  answered : ∀ (x : Reg) (k : Nibble) (later : List Nibble),
    l.emulator.machine.registers.keyWait = some x →
    Input.keys l.frontend.inputs = k :: later →
    l.applied.emulator.machine.registers =
      { l.emulator.machine.registers.set x k with keyWait := none }
  unanswered : l.emulator.machine.registers.keyWait = none ∨ Input.keys l.frontend.inputs = [] →
    l.applied.emulator.machine.registers = l.emulator.machine.registers

/-- Behind the inputs a frame pauses if it meets a breakpoint, and presses no key. -/
theorem advance_keeps (l : FrameLoop ρ) (stepRequested : Bool) :
    (l.advance stepRequested).2.running =
        (if (l.advance stepRequested).1 = some .breakpoint then false else l.running) ∧
      (l.advance stepRequested).2.emulator.machine.keypad = l.emulator.machine.keypad := by
  unfold advance
  cases hrunning : l.running with
  | true =>
    have hkeypad := l.emulator.keypad_run l.stepsPerFrame.toNat
    rw [if_pos rfl]
    unfold runSteps
    generalize l.emulator.run l.stepsPerFrame.toNat = result at hkeypad
    obtain ⟨reason, after⟩ := result
    cases reason with
    | breakpoint =>
      simp only [pause, hrunning]
      exact ⟨rfl, hkeypad⟩
    | timeout | waitKey | error | broken _ => exact ⟨hrunning, hkeypad⟩
  | false =>
    rw [if_neg Bool.false_ne_true]
    cases stepRequested with
    | false => exact ⟨hrunning, rfl⟩
    | true =>
      have hkeypad := l.emulator.keypad_step
      rw [if_pos rfl]
      unfold singleStep
      generalize l.emulator.step = result at hkeypad
      obtain ⟨result, after⟩ := result
      cases result with
      | executed | waiting => exact ⟨hrunning, hkeypad⟩
      | failed fault => cases fault <;> exact ⟨hrunning, hkeypad⟩

/-- The end of a frame leaves mode and emulator as they are. -/
theorem running_frame (l : FrameLoop ρ) :
    l.frame.2.running =
      (l.applied.advance (l.frontend.inputs.contains .step)).2.running := by
  unfold frame applied
  dsimp only
  rcases (l.frontend.inputs.foldl applyInput l.beginFrame).advance
    (l.frontend.inputs.contains .step) with ⟨reason, advanced⟩
  cases reason with
  | none => rfl
  | some reason => cases reason <;> rfl

end FrameLoop

end Chip8
