/-
# Paused frames

A paused frame applies its inputs and does nothing else unless it is asked for a step or resumed.
Any number of such frames leave the machine where it is: the keys follow their inputs, and the
register that waits for a key takes the first of them all. The breakpoint that has paused the frames
is remembered all the while, so the frame that resumes them attempts the instruction there instead
of stopping in front of it again.
-/

import Chip8.Proofs.Frame.Counting
import Chip8.Proofs.Frame.Modes
import Chip8.Proofs.Frame.SingleSteps

namespace Chip8

/-- The input neither asks for a step nor switches the mode. -/
def Input.KeepsPause : Input → Prop
  | .key _ | .quit => True
  | .step | .togglePause => False

instance : DecidablePred Input.KeepsPause
  | .key _ | .quit => .isTrue trivial
  | .step | .togglePause => .isFalse id

/-- Keys reach the registers `V` and the wait only. -/
theorem Registers.answered_eq (r : Registers) (keys : List Nibble) :
    r.answered keys = { r with
      v := (r.answered keys).v, keyWait := (r.answered keys).keyWait } := by
  unfold answered
  split <;> rfl

theorem Emulator.unmoved_takingKeys {ρ : Type} (e : Emulator ρ) (keys : List Nibble)
    (keypad : Keypad) (journal : Array Event) :
    e.Unmoved (e.takingKeys keys keypad journal) := by
  unfold takingKeys
  rw [Registers.answered_eq]
  exact { Unmoved.refl e with }

namespace FrameLoop

variable {ρ : Type} [RandomSource ρ]

/-- Frames have passed in which nothing but keys has come, and they have found the frame loop
paused. -/
structure RestsUnder (l : FrameLoop ρ) (keys : List Nibble) (later : FrameLoop ρ) : Prop where
  paused : later.running = false
  unmoved : l.emulator.Unmoved later.emulator
  timers : later.emulator.machine.timers = l.emulator.machine.timers
  registers : later.emulator.machine.registers = l.emulator.machine.registers.answered keys

/-- The keys that come in so many frames, in order. -/
def keysDuring (l : FrameLoop ρ) (count : Nat) : List Nibble :=
  (List.range count).flatMap fun k => Input.keys (l.afterFrames k).frontend.inputs

theorem keysDuring_succ (l : FrameLoop ρ) (count : Nat) :
    l.keysDuring (count + 1) =
      l.keysDuring count ++ Input.keys (l.afterFrames count).frontend.inputs := by
  rw [keysDuring, List.range_succ, List.flatMap_append, List.flatMap_singleton, keysDuring]

/-- One frame. -/
theorem restsUnder_frame {l : FrameLoop ρ} (hpaused : l.running = false)
    (hquiet : ∀ input ∈ l.frontend.inputs, input.KeepsPause) :
    l.RestsUnder (Input.keys l.frontend.inputs) l.frame.2 := by
  have htoggles : Even l.toggles := by
    have hnone : l.toggles = 0 := List.count_eq_zero.2 fun hmem => hquiet _ hmem
    rw [hnone]
    exact Even.zero
  have hstays : l.applied.running = false := by
    rw [(running_applied_iff l).2 htoggles, hpaused]
  have hunasked : l.frontend.inputs.contains .step = false := by
    rw [Bool.eq_false_iff, ne_eq, List.contains_iff_mem]
    exact fun hmem => hquiet _ hmem
  have hadvance : l.applied.advance (l.frontend.inputs.contains .step) = (none, l.applied) := by
    rw [hunasked, advance, hstays]
    rfl
  obtain ⟨journal, happlied⟩ := l.exists_applied_eq
  rw [hpaused, if_neg Bool.false_ne_true, if_neg Bool.false_ne_true] at happlied
  have hemulator : l.frame.2.emulator = l.applied.emulator := by
    rw [(frame_eq_advance l).2, hadvance]
  rw [happlied] at hemulator
  exact
    { paused := by rw [running_frame, hadvance, hstays]
      unmoved := by rw [hemulator]; exact Emulator.unmoved_takingKeys _ _ _ _
      timers := by rw [hemulator]; rfl
      registers := by rw [hemulator]; rfl }

/-- Frame after frame, the keys of each come behind those of the frames before it. -/
theorem restsUnder_afterFrames {l : FrameLoop ρ} (hpaused : l.running = false) {count : Nat}
    (hquiet : ∀ k < count, ∀ input ∈ (l.afterFrames k).frontend.inputs, input.KeepsPause) :
    l.RestsUnder (l.keysDuring count) (l.afterFrames count) := by
  induction count with
  | zero =>
    exact ⟨hpaused, .refl _, rfl, (Registers.answered_of_idle (.inr rfl)).symm⟩
  | succ count ih =>
    have hbefore := ih fun k hk => hquiet k (Nat.lt_succ_of_lt hk)
    have hframe := restsUnder_frame hbefore.paused (hquiet count (Nat.lt_succ_self count))
    rw [keysDuring_succ]
    exact
      { paused := hframe.paused
        unmoved := hbefore.unmoved.trans hframe.unmoved
        timers := hframe.timers.trans hbefore.timers
        registers := by
          rw [Registers.answered_append, ← hbefore.registers]
          exact hframe.registers }

section Resuming

/-- The frame runs, and attempts the instruction at a breakpoint first instead of stopping in front
of it. -/
structure ResumesAt (l : FrameLoop ρ) (address : Int) : Prop where
  runs : l.applied.running = true
  stands : l.applied.emulator.pc = address ∧
    l.applied.emulator.breakpoints.contains address = true
  /-- the instruction is executed and the frame goes on behind it, or it fails and ends the run -/
  attempts :
    (∃ after, l.applied.emulator.step = (.executed, after) ∧ 0 < l.executed ∧
      l.frame.2.emulator.machine =
        (Emulator.runFrom none (l.stepsPerFrame.toNat - 1) after.started).2.machine) ∨
    ∃ fault, l.applied.emulator.step.1 = .failed fault ∧ l.frame.1 = some fault.stopReason

/-- What a frame that runs behind its inputs executes, tells and leaves of its machine is what a run
executes, tells and leaves. -/
theorem run_of_applied_running {l : FrameLoop ρ} (hruns : l.applied.running = true) :
    l.executed = l.applied.emulator.runLength l.applied.stepsPerFrame.toNat ∧
      l.frame.1 = (l.applied.emulator.run l.applied.stepsPerFrame.toNat).1.told ∧
      l.frame.2.emulator.machine =
        (l.applied.emulator.run l.applied.stepsPerFrame.toNat).2.machine := by
  refine ⟨?_, ?_⟩
  · rw [executed_eq, advanceActs, if_pos hruns, runActs]
    generalize l.applied.emulator.run l.applied.stepsPerFrame.toNat = result
    obtain ⟨reason, after⟩ := result
    cases reason <;> rfl
  · rw [(frame_eq_advance l).1, (frame_eq_advance l).2, advance, if_pos hruns, runSteps]
    generalize l.applied.emulator.run l.applied.stepsPerFrame.toNat = result
    obtain ⟨reason, after⟩ := result
    cases reason with
    | breakpoint =>
      simp only [pause, hruns]
      exact ⟨rfl, rfl⟩
    | timeout | waitKey | error | broken _ => exact ⟨rfl, rfl⟩

/-- A single step tells of no breakpoint. -/
theorem running_of_advance_eq_breakpoint {l : FrameLoop ρ} {stepRequested : Bool}
    (hbreak : (l.advance stepRequested).1 = some .breakpoint) : l.running = true := by
  by_contra hpaused
  rw [advance, if_neg hpaused] at hbreak
  cases stepRequested with
  | false => cases hbreak
  | true =>
    rw [if_pos rfl, singleStep] at hbreak
    generalize l.emulator.step = result at hbreak
    obtain ⟨result, after⟩ := result
    cases result with
    | executed | waiting => cases hbreak
    | failed fault => cases fault <;> cases hbreak

/-- A frame that tells of a breakpoint stands there and remembers it. -/
theorem standing_of_frame_eq_breakpoint {before l : FrameLoop ρ}
    (hbreak : before.frame = (some .breakpoint, l)) :
    l.emulator.resumeFrom = some l.emulator.pc ∧
      l.emulator.breakpoints.contains l.emulator.pc = true := by
  obtain ⟨htold, hemulator⟩ := before.frame_eq_advance
  rw [hbreak] at htold hemulator
  have hruns := running_of_advance_eq_breakpoint htold.symm
  rw [advance, if_pos hruns, runSteps] at htold hemulator
  have hresume := before.applied.emulator.resumeFrom_run before.applied.stepsPerFrame.toNat
  have hstands := @Emulator.contains_of_run_eq_breakpoint _ _ before.applied.emulator
    before.applied.stepsPerFrame.toNat
  generalize before.applied.emulator.run before.applied.stepsPerFrame.toNat = result
    at htold hemulator hresume hstands
  obtain ⟨reason, after⟩ := result
  cases reason with
  | breakpoint =>
    simp only [pause, hruns] at hemulator
    have hafter : l.emulator = after.report (.paused after.pc) := hemulator
    rw [hafter]
    exact ⟨hresume, hstands rfl⟩
  | timeout | waitKey | error | broken _ => cases htold

/-- A frame that resumes at the breakpoint that is remembered attempts the instruction there, unless
a register waits. -/
theorem resumesAt {l : FrameLoop ρ} (hpaused : l.running = false) (htoggles : Odd l.toggles)
    (hsteps : 0 < l.stepsPerFrame)
    (hanswered : l.emulator.machine.registers.keyWait = none ∨ Input.keys l.frontend.inputs ≠ [])
    (hremembers : l.emulator.resumeFrom = some l.emulator.pc)
    (hstands : l.emulator.breakpoints.contains l.emulator.pc = true) :
    l.ResumesAt l.emulator.pc := by
  have hruns : l.applied.running = true := by
    have hswitched := mt (running_applied_iff l).1 (Nat.not_even_iff_odd.2 htoggles)
    rwa [hpaused, Bool.not_eq_false] at hswitched
  obtain ⟨journal, happlied⟩ := l.exists_applied_eq
  rw [hpaused, if_neg Bool.false_ne_true, if_neg Bool.false_ne_true] at happlied
  have hsame : l.emulator.Unmoved l.applied.emulator := by
    rw [happlied]
    exact Emulator.unmoved_takingKeys _ _ _ _
  have hfree : l.applied.emulator.machine.registers.keyWait = none := by
    rw [happlied]
    exact Registers.keyWait_answered hanswered
  have hpasses : ¬ Emulator.Breaks l.applied.emulator.resumeFrom l.applied.emulator :=
    fun hbreaks => hbreaks.2 (by rw [hsame.resumeFrom, hsame.pc, hremembers])
  have hallowed : l.applied.stepsPerFrame = l.stepsPerFrame := by
    have hbegun := l.uncounted_beginFrame.1
    have happliedInputs := (l.beginFrame.uncounted_applyInputs l.frontend.inputs).1
    exact congrArg Config.stepsPerFrame (hbegun.trans happliedInputs).config
  obtain ⟨bound, hbound⟩ : ∃ bound, l.stepsPerFrame.toNat = bound + 1 :=
    Nat.exists_eq_succ_of_ne_zero (by omega)
  obtain ⟨hexecuted, htold, hmachine⟩ := run_of_applied_running hruns
  rw [hallowed, hbound] at hexecuted htold hmachine
  refine ⟨hruns, ⟨hsame.pc, by rw [hsame.breakpoints, hstands]⟩, ?_⟩
  rcases Emulator.run_succ_cases hpasses bound with
    ⟨hwaiting, -, -⟩ | ⟨after, hstep, hrun, hlength⟩ | ⟨fault, hstep, hrun⟩
  · rw [Machine.waiting, hfree] at hwaiting
    cases hwaiting
  · refine .inl ⟨after, hstep, ?_, ?_⟩
    · rw [hexecuted, hlength]
      exact Nat.succ_pos _
    · rw [hmachine, hrun, hbound, Nat.add_sub_cancel]
  · refine .inr ⟨fault, by rw [hstep], ?_⟩
    rw [htold, hrun, Emulator.stopAt_fst]
    cases fault <;> rfl

end Resuming

/-- So many frames have left the machine where it was, and the breakpoint that has paused it does
not stop the frame behind them again. -/
structure StandsStill (l : FrameLoop ρ) (count : Nat) : Prop where
  paused : (l.afterFrames count).running = false
  unmoved : l.emulator.Unmoved (l.afterFrames count).emulator
  timers : (l.afterFrames count).emulator.machine.timers = l.emulator.machine.timers
  registers : l.emulator.machine.registers.keyWait = none ∨ l.keysDuring count = [] →
    (l.afterFrames count).emulator.machine.registers = l.emulator.machine.registers
  /-- the register that waits takes the first key of all frames -/
  answered : ∀ (x : Reg) (k : Nibble) (later : List Nibble),
    l.emulator.machine.registers.keyWait = some x → l.keysDuring count = k :: later →
    (l.afterFrames count).emulator.machine.registers =
      { l.emulator.machine.registers.set x k with keyWait := none }
  /-- the frame that resumes, if a breakpoint has paused -/
  resumes : ∀ before : FrameLoop ρ, before.frame = (some .breakpoint, l) →
    Odd (l.afterFrames count).toggles → 0 < (l.afterFrames count).stepsPerFrame →
    ((l.afterFrames count).emulator.machine.registers.keyWait = none ∨
      Input.keys (l.afterFrames count).frontend.inputs ≠ []) →
    (l.afterFrames count).ResumesAt l.emulator.pc

/-- A frame loop over a program that waits for a key, with a breakpoint behind the wait, keys and
the end in the frames that follow, and then the request to go on. -/
def pausedBehindWait : FrameLoop Tape :=
  { emulator := (Emulator.initial {} (Tape.ofList [0])).afterAll
      [.load [0xF0, 0x0A, 0x12, 0x02] 0x200, .addBreakpoint 0x202]
    frontend := .scripted { schedule :=
      [(1, [.key (fourBits 7), .quit, .key (fourBits 1)]), (3, [.key (fourBits 9)]),
        (4, [.step, .togglePause])] } }

/-- The frame loop where the breakpoint has paused it. -/
def pausedInWait : FrameLoop Tape := pausedBehindWait.frame.2

end FrameLoop

end Chip8
