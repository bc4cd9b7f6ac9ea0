/-
# The frame loop

Sixty times a second the frame loop takes the inputs of the front end and advances the emulator. In
a frame that starts running, all keys come up and the timers tick before the inputs are applied;
what the frame then does depends on the mode after the inputs. A running frame makes as many steps
as its clock speed allows. A paused frame makes one step and one tick if that was asked for. A
sprite that is not drawn breaks the frame off: it is neither counted nor shown.
-/

import Chip8.Emulator.Run
import Chip8.Frame.Input

namespace Chip8

/-- An emulator that is driven frame by frame. -/
structure FrameLoop (ρ : Type) where
  emulator : Emulator ρ
  frontend : Frontend
  /-- the configuration that sets the clock speed, that of the emulator if no other is given -/
  config : Config := emulator.config
  stopOnBreak : Bool := false
  running : Bool := true
  quitRequested : Bool := false
  frames : Nat := 0

namespace FrameLoop

variable {ρ : Type} [RandomSource ρ]

/-- The number of steps in a running frame. -/
def stepsPerFrame (l : FrameLoop ρ) : Int := l.config.stepsPerFrame

/-- The frame loop with an operation applied to its emulator. -/
def onEmulator (l : FrameLoop ρ) (f : Emulator ρ → Emulator ρ) : FrameLoop ρ :=
  { l with emulator := f l.emulator }

/-- Pauses, unless paused. -/
def pause (l : FrameLoop ρ) : FrameLoop ρ :=
  if l.running then
    { l with running := false }.onEmulator fun e => e.report (.paused e.pc)
  else l

/-- Resumes, unless running. -/
def resume (l : FrameLoop ρ) : FrameLoop ρ :=
  if l.running then l
  else { l with running := true }.onEmulator fun e => e.report (.resumed e.pc)

/-- Applies an input. While paused keys are not cleared, so a key replaces those before it. A
request for a step is answered later in the frame. -/
def applyInput (l : FrameLoop ρ) : Input → FrameLoop ρ
  | .key k =>
    l.onEmulator fun e => (if l.running then e else e.clearKeys).pressKey k
  | .step => l
  | .togglePause => if l.running then l.pause else l.resume
  | .quit => { l with quitRequested := true }

/-- The timers and keys at the start of a frame. -/
def beginFrame (l : FrameLoop ρ) : FrameLoop ρ :=
  if l.running then l.onEmulator fun e => e.clearKeys.tick else l

/-- The steps of a running frame. A breakpoint pauses; waits and bounds are not told. -/
def runSteps (l : FrameLoop ρ) : Option StopReason × FrameLoop ρ :=
  match l.emulator.run l.stepsPerFrame.toNat with
  | (.breakpoint, emulator) => (some .breakpoint, { l with emulator }.pause)
  | (.error, emulator) => (some .error, { l with emulator })
  | (.broken reason, emulator) => (some (.broken reason), { l with emulator })
  | (_, emulator) => (none, { l with emulator })

/-- One step while paused, and a tick of the timers unless the frame breaks off. -/
def singleStep (l : FrameLoop ρ) : Option StopReason × FrameLoop ρ :=
  match l.emulator.step with
  | (.failed (.undrawn reason), emulator) => (some (.broken reason), { l with emulator })
  | (.failed fault, emulator) =>
    (some .error, { l with emulator := (emulator.report (.stepFailed fault emulator.pc)).tick })
  | (_, emulator) => (none, { l with emulator := emulator.tick })

/-- The end of a frame: it is counted and shown. -/
def endFrame (l : FrameLoop ρ) : FrameLoop ρ :=
  let (ends, frontend) := l.frontend.present l.emulator.machine.sound l.running
  { l with frontend, frames := l.frames + 1, quitRequested := l.quitRequested || ends }

/-- The work of a frame, once its inputs have been applied. -/
def advance (l : FrameLoop ρ) (stepRequested : Bool) : Option StopReason × FrameLoop ρ :=
  if l.running then l.runSteps
  else if stepRequested then l.singleStep
  else (none, l)

/-- One frame; tells about a breakpoint, an error or a break. -/
def frame (l : FrameLoop ρ) : Option StopReason × FrameLoop ρ :=
  let inputs := l.frontend.inputs
  let applied := inputs.foldl applyInput l.beginFrame
  match applied.advance (inputs.contains .step) with
  | (some (.broken reason), advanced) => (some (.broken reason), advanced)
  | (reason, advanced) => (reason, advanced.endFrame)

/-- What pumping frames comes to. -/
inductive Outcome where
  /-- the frames ended for a reason -/
  | stopped (reason : StopReason)
  /-- the end was asked for -/
  | quit
  /-- nothing has ended the frames -/
  | unfinished
  deriving DecidableEq, Repr

/-- The name of the outcome in reports. -/
def Outcome.name : Outcome → String
  | .stopped reason => reason.name
  | .quit => "QUIT"
  | .unfinished => "UNFINISHED"

/-- The frame ends the pumping. -/
def endsPump (l : FrameLoop ρ) : Option StopReason → Bool
  | some .error | some (.broken _) => true
  | some .breakpoint => l.stopOnBreak
  | _ => false

/-- The frames that were asked for have passed. -/
def spent (maxFrames : Option Int) (frames : Nat) : Bool :=
  maxFrames.any fun count => decide (count ≤ (frames : Int))

/-- One round of the pump: unless the end has been asked for or the frames have passed, a frame,
after which it goes on or has an outcome. -/
def round (maxFrames : Option Int) (l : FrameLoop ρ) : FrameLoop ρ ⊕ (Outcome × FrameLoop ρ) :=
  if l.quitRequested then .inr (.quit, l.onEmulator fun e => e.report (.quit l.frames))
  else if spent maxFrames l.frames then .inr (.stopped .timeout, l)
  else
    let (reason, after) := l.frame
    match reason with
    | some r => if after.endsPump reason then .inr (.stopped r, after) else .inl after
    | none => .inl after

/-- Pumps frames until the end is asked for, an error, a breakpoint that is to stop, or the given
number of frames. If nothing ends them, they are pumped for ever. -/
def pump (l : FrameLoop ρ) (maxFrames : Option Int) : Outcome × FrameLoop ρ :=
  have : Nonempty (Outcome × FrameLoop ρ) := ⟨.unfinished, l⟩
  repeatM (m := Id) (round maxFrames) l

/-- The pump goes from round to round. -/
theorem pump_eq (l : FrameLoop ρ) (maxFrames : Option Int) :
    l.pump maxFrames =
      match l.round maxFrames with
      | .inl after => after.pump maxFrames
      | .inr result => result := by
  have : Nonempty (Outcome × FrameLoop ρ) := ⟨.unfinished, l⟩
  unfold pump
  rw [repeatM_eq_of_monadTail]
  unfold repeatM.body
  cases l.round maxFrames <;> rfl

end FrameLoop

end Chip8
