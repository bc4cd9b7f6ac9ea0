/-
# The ticks of a frame

A frame lets the timers tick at its start if it starts running, and behind a single step if it is
paused once its inputs have been applied. The inputs may switch between the two any number of times.
If they do so an even number of times, the frame ends up in the mode that it started in: it ticks at
most once, and once if it executes anything. Otherwise a frame that starts running and is asked for
a step ticks twice, and one that starts paused executes its steps without a tick.

Ticks are counted among the acts of a frame, which are all that the frame does to its emulator.
-/

import Mathlib.Algebra.Ring.Parity
import Chip8.Frame.Loop
import Chip8.Proofs.Emulator.Calls

namespace Chip8

/-- What a frame does to its emulator: it makes calls and reports events. -/
inductive Act where
  | call (c : Call)
  | report (event : Event)
  deriving DecidableEq, Repr

namespace Emulator

variable {ρ : Type} [RandomSource ρ]

/-- The emulator that an act leaves. -/
def perform (e : Emulator ρ) : Act → Emulator ρ
  | .call c => e.after c
  | .report event => e.report event

/-- The emulator that acts leave, one after the other. -/
def performAll (e : Emulator ρ) (acts : List Act) : Emulator ρ := acts.foldl perform e

/-- The number of instructions that acts execute, one after the other. -/
def executedByActs (e : Emulator ρ) : List Act → Nat
  | [] => 0
  | .call c :: rest => e.executedBy c + (e.after c).executedByActs rest
  | .report event :: rest => (e.report event).executedByActs rest

theorem performAll_append (e : Emulator ρ) (first second : List Act) :
    e.performAll (first ++ second) = (e.performAll first).performAll second :=
  List.foldl_append

theorem executedByActs_append (e : Emulator ρ) (first second : List Act) :
    e.executedByActs (first ++ second) =
      e.executedByActs first + (e.performAll first).executedByActs second := by
  induction first generalizing e with
  | nil => exact (Nat.zero_add _).symm
  | cons act rest ih =>
    cases act with
    | call c =>
      rw [List.cons_append, executedByActs, executedByActs, ih, Nat.add_assoc]
      rfl
    | report event => exact ih (e.report event)

end Emulator

namespace FrameLoop

variable {ρ : Type}

section Inputs

/-- The frame loop once the inputs of a frame have been applied. -/
def applied (l : FrameLoop ρ) : FrameLoop ρ := l.frontend.inputs.foldl applyInput l.beginFrame

/-- The number of times that the inputs of a frame pause or resume. -/
def toggles (l : FrameLoop ρ) : Nat := l.frontend.inputs.count .togglePause

theorem running_beginFrame (l : FrameLoop ρ) : l.beginFrame.running = l.running := by
  unfold beginFrame
  split <;> rfl

theorem running_applyInput (l : FrameLoop ρ) (input : Input) :
    (l.applyInput input).running = if input = .togglePause then !l.running else l.running := by
  cases input with
  | togglePause =>
    unfold applyInput pause resume
    cases hrunning : l.running <;> rfl
  | key _ | step | quit => rfl

theorem running_applyInputs (l : FrameLoop ρ) (inputs : List Input) :
    (inputs.foldl applyInput l).running =
      if Even (inputs.count .togglePause) then l.running else !l.running := by
  induction inputs generalizing l with
  | nil => rfl
  | cons input rest ih =>
    rw [List.foldl_cons, ih, running_applyInput]
    by_cases htoggle : input = .togglePause
    · rw [if_pos htoggle, htoggle, List.count_cons_self]
      by_cases heven : Even (rest.count .togglePause) <;> simp [heven, Nat.even_add_one]
    · rw [if_neg htoggle, List.count_cons_of_ne htoggle]

/-- The inputs leave the mode as it is if an even number of them pauses or resumes. -/
theorem running_applied_iff (l : FrameLoop ρ) :
    l.applied.running = l.running ↔ Even l.toggles := by
  rw [applied, running_applyInputs, running_beginFrame, toggles]
  by_cases heven : Even (l.frontend.inputs.count .togglePause) <;> simp [heven]

/-- The acts at the start of a frame. -/
def beginActs (l : FrameLoop ρ) : List Act :=
  if l.running then [.call .clearKeys, .call .tick] else []

/-- The acts of an input. -/
def inputActs (l : FrameLoop ρ) : Input → List Act
  | .key k => (if l.running then [] else [.call .clearKeys]) ++ [.call (.pressKey k)]
  | .togglePause =>
    [.report (if l.running then .paused l.emulator.pc else .resumed l.emulator.pc)]
  | .step | .quit => []

/-- The acts of inputs, one after the other. -/
def inputsActs (l : FrameLoop ρ) : List Input → List Act
  | [] => []
  | input :: rest => l.inputActs input ++ (l.applyInput input).inputsActs rest

theorem count_tick_beginActs (l : FrameLoop ρ) :
    l.beginActs.count (.call .tick) = if l.running then 1 else 0 := by
  unfold beginActs
  split <;> rfl

theorem count_tick_inputActs (l : FrameLoop ρ) (input : Input) :
    (l.inputActs input).count (.call .tick) = 0 := by
  cases input with
  | key k => cases hrunning : l.running <;> simp [inputActs, hrunning]
  | togglePause => simp [inputActs]
  | step | quit => rfl

theorem count_tick_inputsActs (l : FrameLoop ρ) (inputs : List Input) :
    (l.inputsActs inputs).count (.call .tick) = 0 := by
  induction inputs generalizing l with
  | nil => rfl
  | cons input rest ih => rw [inputsActs, List.count_append, count_tick_inputActs, ih]

end Inputs

variable [RandomSource ρ]

/-- The acts of the steps of a running frame. -/
def runActs (l : FrameLoop ρ) : List Act :=
  .call (.run (some l.stepsPerFrame)) ::
    match l.emulator.run l.stepsPerFrame.toNat with
    | (.breakpoint, after) => [.report (.paused after.pc)]
    | _ => []

/-- The acts of a single step. -/
def stepActs (l : FrameLoop ρ) : List Act :=
  .call .step ::
    match l.emulator.step with
    | (.failed (.undrawn _), _) => []
    | (.failed fault, after) => [.report (.stepFailed fault after.pc), .call .tick]
    | _ => [.call .tick]

/-- The acts of a frame, once its inputs have been applied. -/
def advanceActs (l : FrameLoop ρ) (stepRequested : Bool) : List Act :=
  if l.running then l.runActs else if stepRequested then l.stepActs else []

/-- Everything that a frame does to its emulator, in order. -/
def acts (l : FrameLoop ρ) : List Act :=
  l.beginActs ++ l.beginFrame.inputsActs l.frontend.inputs ++
    l.applied.advanceActs (l.frontend.inputs.contains .step)

section Replay

theorem emulator_beginFrame (l : FrameLoop ρ) :
    l.beginFrame.emulator = l.emulator.performAll l.beginActs := by
  unfold beginFrame beginActs
  split <;> rfl

theorem emulator_applyInput (l : FrameLoop ρ) (input : Input) :
    (l.applyInput input).emulator = l.emulator.performAll (l.inputActs input) := by
  cases input with
  | key k =>
    unfold applyInput inputActs onEmulator Emulator.performAll
    cases l.running with
    | true => exact (Emulator.after_pressKey l.emulator k).symm
    | false => exact (Emulator.after_pressKey l.emulator.clearKeys k).symm
  | togglePause =>
    unfold applyInput inputActs pause resume
    cases hrunning : l.running <;> rfl
  | step | quit => rfl

theorem emulator_applyInputs (l : FrameLoop ρ) (inputs : List Input) :
    (inputs.foldl applyInput l).emulator = l.emulator.performAll (l.inputsActs inputs) := by
  induction inputs generalizing l with
  | nil => rfl
  | cons input rest ih =>
    rw [List.foldl_cons, ih, emulator_applyInput, inputsActs, Emulator.performAll_append]

theorem emulator_runSteps (l : FrameLoop ρ) (hrunning : l.running = true) :
    l.runSteps.2.emulator = l.emulator.performAll l.runActs := by
  have hrun : l.emulator.after (.run (some l.stepsPerFrame)) =
      (l.emulator.run l.stepsPerFrame.toNat).2 := rfl
  unfold runSteps runActs
  simp only [Emulator.performAll, List.foldl_cons, Emulator.perform, hrun]
  rcases l.emulator.run l.stepsPerFrame.toNat with ⟨reason, after⟩
  cases reason with
  | breakpoint =>
    simp only [pause, hrunning]
    rfl
  | timeout | waitKey | error | broken _ => rfl

theorem emulator_singleStep (l : FrameLoop ρ) :
    l.singleStep.2.emulator = l.emulator.performAll l.stepActs := by
  have hstep : l.emulator.after .step = l.emulator.step.2 := rfl
  unfold singleStep stepActs
  simp only [Emulator.performAll, List.foldl_cons, Emulator.perform, hstep]
  rcases l.emulator.step with ⟨result, after⟩
  cases result with
  | executed | waiting => rfl
  | failed fault => cases fault <;> rfl

theorem emulator_advance (l : FrameLoop ρ) (stepRequested : Bool) :
    (l.advance stepRequested).2.emulator =
      l.emulator.performAll (l.advanceActs stepRequested) := by
  unfold advance advanceActs
  by_cases hrunning : l.running = true
  · rw [if_pos hrunning, if_pos hrunning, emulator_runSteps l hrunning]
  · rw [if_neg hrunning, if_neg hrunning]
    cases stepRequested with
    | true => exact emulator_singleStep l
    | false => rfl

/-- A frame tells how it has advanced, and the end of it leaves the emulator alone. -/
theorem frame_eq_advance (l : FrameLoop ρ) :
    l.frame.1 = (l.applied.advance (l.frontend.inputs.contains .step)).1 ∧
      l.frame.2.emulator =
        (l.applied.advance (l.frontend.inputs.contains .step)).2.emulator := by
  unfold frame applied
  dsimp only
  rcases (l.frontend.inputs.foldl applyInput l.beginFrame).advance
    (l.frontend.inputs.contains .step) with ⟨reason, advanced⟩
  cases reason with
  | none => exact ⟨rfl, rfl⟩
  | some reason => cases reason <;> exact ⟨rfl, rfl⟩

/-- The acts of a frame are what it does. -/
theorem emulator_frame (l : FrameLoop ρ) :
    l.frame.2.emulator = l.emulator.performAll l.acts := by
  rw [(frame_eq_advance l).2, emulator_advance, applied, emulator_applyInputs, emulator_beginFrame,
    acts, Emulator.performAll_append, Emulator.performAll_append, applied]

end Replay

/-- The number of times that a frame lets the timers tick. -/
def ticks (l : FrameLoop ρ) : Nat := l.acts.count (.call .tick)

/-- The number of instructions that a frame executes. -/
def executed (l : FrameLoop ρ) : Nat := l.emulator.executedByActs l.acts

/-- The frame is broken off. -/
def breaksOff (l : FrameLoop ρ) : Bool :=
  match l.frame.1 with
  | some (.broken _) => true
  | _ => false

/-- The frame makes the single step that its inputs ask for: it is paused once they have been
applied, and is not broken off. -/
def stepsSingly (l : FrameLoop ρ) : Bool :=
  !l.applied.running && l.frontend.inputs.contains .step && !l.breaksOff

theorem stepsSingly_iff (l : FrameLoop ρ) :
    l.stepsSingly = true ↔
      l.applied.running = false ∧ .step ∈ l.frontend.inputs ∧ l.breaksOff = false := by
  simp [stepsSingly, and_assoc]

section Counts

theorem count_tick_runActs (l : FrameLoop ρ) : l.runActs.count (.call .tick) = 0 := by
  unfold runActs
  split <;> simp

/-- Behind a single step the timers tick, unless it breaks the frame off. -/
theorem count_tick_stepActs (l : FrameLoop ρ) :
    l.stepActs.count (.call .tick) =
      match l.singleStep.1 with
      | some (.broken _) => 0
      | _ => 1 := by
  unfold stepActs singleStep
  rw [List.count_cons_of_ne (by simp)]
  rcases l.emulator.step with ⟨result, after⟩
  cases result with
  | executed | waiting => rfl
  | failed fault => cases fault <;> simp

theorem count_tick_advanceActs (l : FrameLoop ρ) :
    (l.applied.advanceActs (l.frontend.inputs.contains .step)).count (.call .tick) =
      if l.stepsSingly then 1 else 0 := by
  unfold stepsSingly breaksOff advanceActs
  rw [(frame_eq_advance l).1, advance]
  cases l.applied.running with
  | true => simp [count_tick_runActs]
  | false =>
    cases l.frontend.inputs.contains .step with
    | false => rfl
    | true =>
      simp only [Bool.false_eq_true, ↓reduceIte, count_tick_stepActs]
      split <;> simp_all

/-- The ticks of a frame: one at the start of a running frame, one behind a single step. -/
theorem ticks_eq (l : FrameLoop ρ) :
    l.ticks = (if l.running then 1 else 0) + (if l.stepsSingly then 1 else 0) := by
  rw [ticks, acts, List.count_append, List.count_append, count_tick_beginActs,
    count_tick_inputsActs, count_tick_advanceActs, Nat.add_zero]

theorem ticks_le_one_iff (l : FrameLoop ρ) :
    l.ticks ≤ 1 ↔ ¬ (l.running = true ∧ l.stepsSingly = true) := by
  rw [ticks_eq]
  cases l.running <;> cases l.stepsSingly <;> decide

end Counts

section Executed

variable (e : Emulator ρ) (l : FrameLoop ρ)

theorem executedByActs_beginActs : e.executedByActs l.beginActs = 0 := by
  unfold beginActs
  split <;> rfl

theorem executedByActs_inputActs (input : Input) : e.executedByActs (l.inputActs input) = 0 := by
  cases input with
  | key k =>
    unfold inputActs
    cases l.running <;> rfl
  | togglePause | step | quit => rfl

theorem executedByActs_inputsActs (inputs : List Input) :
    e.executedByActs (l.inputsActs inputs) = 0 := by
  induction inputs generalizing e l with
  | nil => rfl
  | cons input rest ih =>
    rw [inputsActs, Emulator.executedByActs_append, executedByActs_inputActs, ih]

theorem executedByActs_stepActs :
    l.emulator.executedByActs l.stepActs = if l.emulator.step.1 = .executed then 1 else 0 := by
  unfold stepActs
  rw [Emulator.executedByActs, Emulator.executedBy]
  rcases l.emulator.step with ⟨result, after⟩
  cases result with
  | executed | waiting => rfl
  | failed fault => cases fault <;> rfl

/-- A frame executes instructions behind its inputs only. -/
theorem executed_eq :
    l.executed = l.applied.emulator.executedByActs
      (l.applied.advanceActs (l.frontend.inputs.contains .step)) := by
  rw [executed, acts, Emulator.executedByActs_append, Emulator.executedByActs_append,
    executedByActs_beginActs, executedByActs_inputsActs, Emulator.performAll_append,
    ← emulator_beginFrame, ← emulator_applyInputs, ← applied, Nat.add_zero, Nat.zero_add]

/-- A paused frame executes instructions by a single step only. -/
theorem stepsSingly_of_executed {l : FrameLoop ρ} (hexecuted : 0 < l.executed)
    (hpaused : l.applied.running = false) : l.stepsSingly = true := by
  rw [executed_eq, advanceActs, hpaused] at hexecuted
  unfold stepsSingly breaksOff
  rw [(frame_eq_advance l).1, advance, hpaused]
  cases hasked : l.frontend.inputs.contains .step with
  | false =>
    rw [hasked] at hexecuted
    exact absurd hexecuted (Nat.lt_irrefl 0)
  | true =>
    simp only [hasked, Bool.false_eq_true, ↓reduceIte, executedByActs_stepActs] at hexecuted
    have hstep : l.applied.emulator.step.1 = .executed := by
      by_contra hidle
      rw [if_neg hidle] at hexecuted
      exact absurd hexecuted (Nat.lt_irrefl 0)
    obtain ⟨after, hafter⟩ : ∃ after, l.applied.emulator.step = (.executed, after) :=
      ⟨_, Prod.ext hstep rfl⟩
    have hreason : l.applied.singleStep.1 = none := by rw [singleStep, hafter]
    simp [hreason]

end Executed

/-- Whether a frame ticks once depends on how often its inputs pause or resume. It ticks more than
once exactly if it starts running, they do so an odd number of times, a single step is asked for and
this step does not break the frame off. A frame that executes instructions ticks once exactly if
they do so an even number of times. -/
theorem ticks_frame (l : FrameLoop ρ) :
    l.frame.2.emulator = l.emulator.performAll l.acts ∧
      (l.ticks ≤ 1 ↔ ¬ (l.running = true ∧ Odd l.toggles ∧ .step ∈ l.frontend.inputs ∧
        l.breaksOff = false)) ∧
      (0 < l.executed → (l.ticks = 1 ↔ Even l.toggles)) := by
  refine ⟨emulator_frame l, ?_, ?_⟩
  · rw [ticks_le_one_iff, stepsSingly_iff, not_iff_not, ← Nat.not_even_iff_odd,
      ← running_applied_iff]
    refine and_congr_right fun hrunning => and_congr_left fun _ => ?_
    rw [hrunning, Bool.not_eq_true]
  · intro hexecuted
    rw [ticks_eq, ← running_applied_iff]
    cases hmode : l.applied.running with
    | true =>
      have hsingle : l.stepsSingly = false := by
        rw [stepsSingly, hmode]
        rfl
      cases l.running <;> simp [hsingle]
    | false =>
      have hsingle := stepsSingly_of_executed hexecuted hmode
      cases l.running <;> simp [hsingle]

/-- A frame loop over a program that adds to a register and then jumps in place, with five ticks to
go for the delay, and the inputs of its first frame. -/
def countdown (running : Bool) (inputs : List Input) : FrameLoop Tape :=
  let e := (Emulator.initial {} (Tape.ofList [0])).after (.load [0x70, 0x01, 0x12, 0x02] 0x200)
  { emulator := { e with machine := { e.machine with
      timers := { e.machine.timers with delay := 5 } } }
    frontend := .scripted { schedule := [(0, inputs)] }
    running }

/-- A paused frame that is resumed, paused again and asked for a step. -/
def resumedAndPaused : FrameLoop Tape :=
  countdown false [.togglePause, .key (fourBits 3), .step, .togglePause]

theorem ticks_frame_resumedAndPaused :
    (0 < resumedAndPaused.executed ∧ Even resumedAndPaused.toggles) ∧
      resumedAndPaused.ticks = 1 := by
  have hexecuted : 0 < resumedAndPaused.executed := by decide +kernel
  have heven : Even resumedAndPaused.toggles := by decide
  exact ⟨⟨hexecuted, heven⟩, ((ticks_frame resumedAndPaused).2.2 hexecuted).2 heven⟩

/-- It is not so that every frame ticks at most once, and once if it executes instructions: one that
is paused and asked for a step ticks twice, and one that is resumed runs without a tick. -/
theorem not_one_tick_per_frame :
    ¬ (∀ l : FrameLoop Tape, l.ticks ≤ 1) ∧
      ¬ ∀ l : FrameLoop Tape, 0 < l.executed → l.ticks = 1 := by
  refine ⟨fun honce => ?_, fun honce => ?_⟩
  · exact absurd (honce (countdown true [.togglePause, .step])) (by decide +kernel)
  · exact absurd (honce (countdown false [.togglePause]) (by decide +kernel)) (by decide +kernel)

end FrameLoop

end Chip8
