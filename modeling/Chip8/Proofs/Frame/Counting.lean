/-
# What a frame takes and counts

A frame takes the inputs that the script gives for its number, and once it is done both the frame
loop and the script have counted it: the script counts the frames that end with sound and those that
end paused as well. The end is asked for by an input of the frame or because the script wants no
more frames. A frame that is broken off is not counted.
-/

import Chip8.Proofs.Frame.Ticks

namespace Chip8

namespace Script

/-- The inputs that the schedule holds for a frame. -/
def inputsAt (s : Script) (frame : Nat) : List Input := (s.schedule.lookup (frame : Int)).getD []

/-- The end is asked for in this frame. -/
def quitsAt (s : Script) (frame : Nat) : Bool :=
  (s.inputsAt frame).contains .quit ||
    s.quitAfter.any fun count => decide (count ≤ (frame : Int) + 1)

end Script

namespace FrameLoop

variable {ρ : Type}

/-- Up to the end of a frame these parts stay as they are. -/
structure Uncounted (l other : FrameLoop ρ) : Prop where
  frontend : other.frontend = l.frontend
  config : other.config = l.config
  stopOnBreak : other.stopOnBreak = l.stopOnBreak
  frames : other.frames = l.frames

theorem Uncounted.refl (l : FrameLoop ρ) : Uncounted l l := ⟨rfl, rfl, rfl, rfl⟩

theorem Uncounted.trans {first second third : FrameLoop ρ} (h : Uncounted first second)
    (h' : Uncounted second third) : Uncounted first third where
  frontend := h'.frontend.trans h.frontend
  config := h'.config.trans h.config
  stopOnBreak := h'.stopOnBreak.trans h.stopOnBreak
  frames := h'.frames.trans h.frames

theorem uncounted_beginFrame (l : FrameLoop ρ) :
    Uncounted l l.beginFrame ∧ l.beginFrame.quitRequested = l.quitRequested := by
  unfold beginFrame
  split <;> exact ⟨⟨rfl, rfl, rfl, rfl⟩, rfl⟩

theorem uncounted_applyInput (l : FrameLoop ρ) (input : Input) :
    Uncounted l (l.applyInput input) ∧
      (l.applyInput input).quitRequested = (l.quitRequested || .quit == input) := by
  cases input with
  | key _ | step => exact ⟨⟨rfl, rfl, rfl, rfl⟩, (Bool.or_false _).symm⟩
  | quit => exact ⟨⟨rfl, rfl, rfl, rfl⟩, (Bool.or_true _).symm⟩
  | togglePause =>
    unfold applyInput pause resume
    cases l.running <;> exact ⟨⟨rfl, rfl, rfl, rfl⟩, (Bool.or_false _).symm⟩

theorem uncounted_applyInputs (l : FrameLoop ρ) (inputs : List Input) :
    Uncounted l (inputs.foldl applyInput l) ∧
      (inputs.foldl applyInput l).quitRequested = (l.quitRequested || inputs.contains .quit) := by
  induction inputs generalizing l with
  | nil => exact ⟨.refl l, (Bool.or_false _).symm⟩
  | cons input rest ih =>
    obtain ⟨hfirst, hquit⟩ := l.uncounted_applyInput input
    obtain ⟨hrest, hrestQuit⟩ := ih (l.applyInput input)
    refine ⟨hfirst.trans hrest, ?_⟩
    rw [List.foldl_cons, hrestQuit, hquit, List.contains_cons, Bool.or_assoc]

variable [RandomSource ρ]

theorem uncounted_advance (l : FrameLoop ρ) (stepRequested : Bool) :
    Uncounted l (l.advance stepRequested).2 ∧
      (l.advance stepRequested).2.quitRequested = l.quitRequested := by
  unfold advance
  by_cases hrunning : l.running = true
  · rw [if_pos hrunning]
    unfold runSteps pause
    simp only [hrunning]
    rcases l.emulator.run l.stepsPerFrame.toNat with ⟨reason, after⟩
    cases reason <;> exact ⟨⟨rfl, rfl, rfl, rfl⟩, rfl⟩
  · rw [if_neg hrunning]
    cases stepRequested with
    | false => exact ⟨.refl l, rfl⟩
    | true =>
      unfold singleStep
      rcases l.emulator.step with ⟨result, after⟩
      cases result with
      | executed | waiting => exact ⟨⟨rfl, rfl, rfl, rfl⟩, rfl⟩
      | failed fault => cases fault <;> exact ⟨⟨rfl, rfl, rfl, rfl⟩, rfl⟩

/-- A frame with these inputs, whatever the front end gives. -/
def frameWith (l : FrameLoop ρ) (inputs : List Input) : Option StopReason × FrameLoop ρ :=
  match (inputs.foldl applyInput l.beginFrame).advance (inputs.contains .step) with
  | (some (.broken reason), advanced) => (some (.broken reason), advanced)
  | (reason, advanced) => (reason, advanced.endFrame)

/-- A frame takes the inputs of the front end. -/
theorem frame_eq_frameWith (l : FrameLoop ρ) : l.frame = l.frameWith l.frontend.inputs := rfl

/-- What a frame comes to: it is broken off, or it ends. -/
theorem frame_cases (l : FrameLoop ρ) :
    (∃ reason advanced, l.frame = (some (.broken reason), advanced) ∧ Uncounted l advanced) ∨
      ∃ reported advanced, (∀ reason, reported ≠ some (.broken reason)) ∧
        l.frame = (reported, advanced.endFrame) ∧ Uncounted l advanced ∧
        advanced.quitRequested = (l.quitRequested || l.frontend.inputs.contains .quit) := by
  obtain ⟨hbegun, hbegunQuit⟩ := l.uncounted_beginFrame
  obtain ⟨happlied, happliedQuit⟩ := l.beginFrame.uncounted_applyInputs l.frontend.inputs
  obtain ⟨hadvanced, hadvancedQuit⟩ :=
    (l.frontend.inputs.foldl applyInput l.beginFrame).uncounted_advance
      (l.frontend.inputs.contains .step)
  have huncounted := hbegun.trans (happlied.trans hadvanced)
  rw [happliedQuit, hbegunQuit] at hadvancedQuit
  unfold frame
  dsimp only
  generalize (l.frontend.inputs.foldl applyInput l.beginFrame).advance
    (l.frontend.inputs.contains .step) = result at huncounted hadvancedQuit ⊢
  obtain ⟨reported, advanced⟩ := result
  cases reported with
  | none => exact .inr ⟨none, advanced, nofun, rfl, huncounted, hadvancedQuit⟩
  | some reported =>
    cases reported with
    | broken reason => exact .inl ⟨reason, advanced, rfl, huncounted⟩
    | timeout | breakpoint | waitKey | error =>
      refine .inr ⟨_, advanced, ?_, rfl, huncounted, hadvancedQuit⟩
      rintro reason ⟨⟩

/-- The frame loop after so many frames, whatever they report. -/
def afterFrames (l : FrameLoop ρ) : Nat → FrameLoop ρ
  | 0 => l
  | count + 1 => (l.afterFrames count).frame.2

theorem stopOnBreak_afterFrames (l : FrameLoop ρ) (count : Nat) :
    (l.afterFrames count).stopOnBreak = l.stopOnBreak := by
  induction count with
  | zero => rfl
  | succ count ih =>
    rw [afterFrames]
    rcases (l.afterFrames count).frame_cases with
      ⟨reason, advanced, hframe, huncounted⟩ | ⟨reported, advanced, -, hframe, huncounted, -⟩
    · rw [hframe]
      exact huncounted.stopOnBreak.trans ih
    · rw [hframe]
      exact huncounted.stopOnBreak.trans ih

/-- The frame loop and its script are at the same frame, and nobody has asked for the end. -/
structure AtFrame (l : FrameLoop ρ) (s : Script) : Prop where
  frontend : l.frontend = .scripted s
  frames : l.frames = s.frames
  quitRequested : l.quitRequested = false

/-- The script once it has been shown so many frames. -/
def shown (l : FrameLoop ρ) (s : Script) (count : Nat) : Script :=
  { s with
    frames := s.frames + count
    soundFrames := s.soundFrames +
      (List.range count).countP fun k => (l.afterFrames (k + 1)).emulator.machine.sound
    pausedFrames := s.pausedFrames +
      (List.range count).countP fun k => !(l.afterFrames (k + 1)).running }

omit [RandomSource ρ] in
/-- A frame that ends is counted, and so are its sound and its mode. -/
theorem endFrame_counts {l : FrameLoop ρ} {s : Script} (hfrontend : l.frontend = .scripted s) :
    l.endFrame.frontend =
        .scripted (s.present l.endFrame.emulator.machine.sound l.endFrame.running).2 ∧
      l.endFrame.frames = l.frames + 1 ∧
      l.endFrame.quitRequested = (l.quitRequested ||
        s.quitAfter.any fun count => decide (count ≤ (s.frames : Int) + 1)) := by
  unfold endFrame Frontend.present Script.present
  rw [hfrontend]
  refine ⟨rfl, rfl, ?_⟩
  dsimp only
  cases s.quitAfter <;> rfl

/-- What a frame leaves behind: it is broken off and not counted, or it is counted, and the end has
been asked for if its inputs or the script do so. -/
theorem AtFrame.frame {l : FrameLoop ρ} {s : Script} (h : AtFrame l s) :
    (∃ reason, l.frame.1 = some (.broken reason) ∧ l.frame.2.frontend = .scripted s ∧
        l.frame.2.frames = l.frames) ∨
      (∀ reason, l.frame.1 ≠ some (.broken reason)) ∧
        l.frame.2.frontend =
          .scripted (s.present l.frame.2.emulator.machine.sound l.frame.2.running).2 ∧
        l.frame.2.frames = l.frames + 1 ∧ l.frame.2.quitRequested = s.quitsAt l.frames := by
  have hinputs : l.frontend.inputs = s.inputsAt l.frames := by
    rw [h.frontend, h.frames]
    rfl
  rcases l.frame_cases with
    ⟨reason, advanced, hframe, huncounted⟩ | ⟨reported, advanced, hends, hframe, huncounted, hquit⟩
  · refine .inl ⟨reason, by rw [hframe], ?_, ?_⟩
    · rw [hframe]
      exact huncounted.frontend.trans h.frontend
    · rw [hframe]
      exact huncounted.frames
  · obtain ⟨hfrontend, hframes, hquits⟩ :=
      endFrame_counts (huncounted.frontend.trans h.frontend)
    rw [hframe]
    refine .inr ⟨hends, hfrontend, by rw [hframes, huncounted.frames], ?_⟩
    rw [hquits, hquit, h.quitRequested, hinputs, Script.quitsAt, h.frames, Bool.false_or]

theorem shown_succ (l : FrameLoop ρ) (s : Script) (count : Nat) :
    l.shown s (count + 1) =
      ((l.shown s count).present (l.afterFrames (count + 1)).emulator.machine.sound
        (l.afterFrames (count + 1)).running).2 := by
  unfold shown Script.present
  simp only [List.range_succ, List.countP_append, List.countP_singleton, Script.mk.injEq, true_and]
  refine ⟨rfl, ?_, ?_⟩
  · rw [Nat.add_assoc]
  · rw [Nat.add_assoc]
    cases (l.afterFrames (count + 1)).running <;> rfl

/-- Behind a frame at which nothing has ended, the next frame comes. -/
theorem AtFrame.succ {l : FrameLoop ρ} {s : Script} {k : Nat}
    (h : AtFrame (l.afterFrames k) (l.shown s k))
    (hends : ∀ reason, (l.afterFrames k).frame.1 ≠ some (.broken reason))
    (hstays : s.quitsAt (s.frames + k) = false) :
    AtFrame (l.afterFrames (k + 1)) (l.shown s (k + 1)) := by
  rcases h.frame with ⟨reason, hbroken, -, -⟩ | ⟨-, hfrontend, hframes, hquit⟩
  · exact absurd hbroken (hends reason)
  · have hnumber : (l.afterFrames k).frames = s.frames + k := h.frames
    refine ⟨?_, ?_, ?_⟩
    · rw [shown_succ]
      exact hfrontend
    · exact hframes.trans (by rw [hnumber]; rfl)
    · exact hquit.trans (by rw [hnumber]; exact hstays)

end FrameLoop

end Chip8
