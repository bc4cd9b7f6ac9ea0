/-
# Single steps and runs of one step

A paused frame that is asked for a step makes it by itself and not by a run. Where no breakpoint
stands, it leaves the machine that a run of one step would leave, one tick later, and tells of an
error exactly if the run does. What is left behind of the error differs: the run reports the word
and the instruction that failed and, while tracing, notes the failure in the trace; the frame
reports the fault and the program counter only.
-/

import Chip8.Proofs.Emulator.Iteration
import Chip8.Proofs.Frame.Ticks

namespace Chip8

/-- What a frame tells of a run that ended for this reason: waits and bounds are not told. -/
def StopReason.told : StopReason → Option StopReason
  | .timeout | .waitKey => none
  | .breakpoint => some .breakpoint
  | .error => some .error
  | .broken reason => some (.broken reason)

/-- The report of a run on a failure says what the report of a single step says, and then names the
word and its instruction. -/
theorem Event.message_runFailed (fault : Fault) (pc : Int) (word : Nat) (i : Instruction) :
    (Event.runFailed fault pc word i).message = (Event.stepFailed fault pc).message ++
      (" (" ++ String.ofList (Text.hexPadded 4 word) ++ " " ++ String.ofList i.text ++ ")") := by
  have hstep : (Event.stepFailed fault pc).message =
      fault.message ++ " at " ++ addressText pc := rfl
  have hrun : (Event.runFailed fault pc word i).message =
      fault.message ++ " at " ++ addressText pc ++ " (" ++
        String.ofList (Text.hexPadded 4 word) ++ " " ++ String.ofList i.text ++ ")" := rfl
  rw [hrun, hstep]
  simp only [String.append_assoc]

theorem Event.message_runFailed_ne (fault : Fault) (pc : Int) (word : Nat) (i : Instruction) :
    (Event.stepFailed fault pc).message ≠ (Event.runFailed fault pc word i).message := by
  intro hsame
  have hlength := congrArg String.length (hsame.trans (message_runFailed fault pc word i))
  simp only [String.length_append] at hlength
  have hmark : " (".length = 2 := rfl
  omega

namespace Emulator

variable {ρ : Type}

/-- The wording of the errors in the journal. -/
def errorMessages (e : Emulator ρ) : List String :=
  (e.journal.toList.filter fun event => event.level == .error).map Event.message

end Emulator

namespace FrameLoop

variable {ρ : Type} [RandomSource ρ]

/-- What a frame and a run of one step leave behind of a fault that both have met in the same
attempt. -/
structure LeaveBehind (frame run attempted : Emulator ρ) (fault : Fault) : Prop where
  /-- the frame reports the fault and where it was met -/
  frameJournal : frame.journal = attempted.journal.push (.stepFailed fault attempted.pc)
  frameTrace : frame.trace = attempted.trace
  /-- the run reports the word and the instruction as well -/
  runJournal : run.journal = attempted.journal.push
    (.runFailed fault attempted.pc attempted.currentWord (decode attempted.currentWord))
  /-- while tracing it notes the failure behind the attempt -/
  runTrace : run.trace =
    if attempted.tracing then attempted.trace.push (.failure fault) else attempted.trace

/-- A frame that makes a single step leaves the machine that a run of one step leaves, one tick
later. Their traces and their reports of errors are the same exactly if there is nothing to note. -/
structure AgreesWithRun (l : FrameLoop ρ) : Prop where
  /-- a frame that is broken off does not tick -/
  machine : l.frame.2.emulator.machine =
    if l.breaksOff then (l.emulator.run 1).2.machine else (l.emulator.run 1).2.machine.tick
  reported : l.frame.1 = (l.emulator.run 1).1.told
  trace_iff : l.frame.2.emulator.trace = (l.emulator.run 1).2.trace ↔
    ¬ ((l.emulator.run 1).1 = .error ∧ l.emulator.tracing = true)
  errors_iff : l.frame.2.emulator.errorMessages = (l.emulator.run 1).2.errorMessages ↔
    (l.emulator.run 1).1 ≠ .error
  failed : (l.emulator.run 1).1 = .error → ∃ fault, l.emulator.step.1 = .failed fault ∧
    LeaveBehind l.frame.2.emulator (l.emulator.run 1).2 l.emulator.traceAttempt fault

section LeftBehind

variable {frame run attempted : Emulator ρ} {fault : Fault}

omit [RandomSource ρ] in
theorem leaveBehind (attempted : Emulator ρ) (fault : Fault) :
    LeaveBehind (attempted.report (.stepFailed fault attempted.pc)).tick
      (attempted.started.noteFailure fault) attempted fault where
  frameJournal := rfl
  frameTrace := rfl
  runJournal := by
    unfold Emulator.noteFailure
    dsimp only
    split <;> rfl
  runTrace := by
    unfold Emulator.noteFailure
    dsimp only
    split <;> simp_all [Emulator.started, Emulator.report]

omit [RandomSource ρ] in
theorem LeaveBehind.errorMessages_ne (h : LeaveBehind frame run attempted fault) :
    frame.errorMessages ≠ run.errorMessages := by
  unfold Emulator.errorMessages
  rw [h.frameJournal, h.runJournal, Array.toList_push, Array.toList_push, List.filter_append,
    List.filter_append, List.map_append, List.map_append]
  intro hsame
  have hlast := List.append_cancel_left hsame
  exact Event.message_runFailed_ne _ _ _ _ (List.head_eq_of_cons_eq hlast)

omit [RandomSource ρ] in
theorem LeaveBehind.trace_eq_iff (h : LeaveBehind frame run attempted fault) :
    frame.trace = run.trace ↔ attempted.tracing = false := by
  rw [h.frameTrace, h.runTrace]
  cases attempted.tracing with
  | false => simp
  | true =>
    simp only [if_true, Bool.true_eq_false, iff_false]
    intro hsame
    have hsize := congrArg Array.size hsame
    rw [Array.size_push] at hsize
    omega

end LeftBehind

/-- A paused frame whose only input asks for a step is that step. -/
theorem frame_of_step {l : FrameLoop ρ} (hpaused : l.running = false)
    (hinputs : l.frontend.inputs = [.step]) :
    l.frame.1 = l.singleStep.1 ∧ l.frame.2.emulator = l.singleStep.2.emulator := by
  have hbegin : l.beginFrame = l := if_neg (by rw [hpaused]; exact Bool.false_ne_true)
  have happlied : l.applied = l := by
    rw [applied, hinputs, hbegin]
    rfl
  have hadvance : l.applied.advance (l.frontend.inputs.contains .step) = l.singleStep := by
    rw [happlied, hinputs, advance, hpaused]
    rfl
  rw [(frame_eq_advance l).1, (frame_eq_advance l).2, hadvance]
  exact ⟨rfl, rfl⟩

section Agreement

variable {l : FrameLoop ρ} {after : Emulator ρ} {reason : StopReason}

/-- Without an error there is nothing to note. -/
theorem agreesWithRun_of_ne_error (hrun : l.emulator.run 1 = (reason, after.started))
    (hquiet : reason ≠ .error) (hreported : l.frame.1 = reason.told)
    (hemulator : l.frame.2.emulator = if l.breaksOff then after else after.tick) :
    l.AgreesWithRun := by
  have hsame : l.frame.2.emulator.trace = after.trace ∧
      l.frame.2.emulator.errorMessages = after.errorMessages ∧
      l.frame.2.emulator.machine = if l.breaksOff then after.machine else after.machine.tick := by
    rw [hemulator]
    split <;> exact ⟨rfl, rfl, rfl⟩
  have hreason : (l.emulator.run 1).1 = reason := by rw [hrun]
  rw [← hreason] at hquiet hreported
  exact
    { machine := by rw [hsame.2.2, hrun]; rfl
      reported := hreported
      trace_iff := iff_of_true (by rw [hsame.1, hrun]; rfl) fun herror => hquiet herror.1
      errors_iff := iff_of_true (by rw [hsame.2.1, hrun]; rfl) hquiet
      failed := fun herror => absurd herror hquiet }

theorem agreesWithRun_of_error {fault : Fault} (hfails : l.emulator.step.1 = .failed fault)
    (hreported : l.frame.1 = some .error)
    (hemulator : l.frame.2.emulator = (l.emulator.traceAttempt.report
      (.stepFailed fault l.emulator.traceAttempt.pc)).tick)
    (hrun : l.emulator.run 1 = (.error, l.emulator.traceAttempt.started.noteFailure fault)) :
    l.AgreesWithRun := by
  have hleft := leaveBehind l.emulator.traceAttempt fault
  have htracing : l.emulator.traceAttempt.tracing = l.emulator.tracing := by
    rw [Emulator.traceAttempt_eq]
  have hends : l.breaksOff = false := by rw [breaksOff, hreported]
  have hmachine : (l.emulator.traceAttempt.started.noteFailure fault).machine =
      l.emulator.traceAttempt.machine := by
    unfold Emulator.noteFailure
    dsimp only
    split <;> rfl
  have herror : (l.emulator.run 1).1 = .error := by rw [hrun]
  have hlast : (l.emulator.run 1).2 = l.emulator.traceAttempt.started.noteFailure fault := by
    rw [hrun]
  rw [← hemulator, ← hlast] at hleft
  exact
    { machine := by rw [hends, hemulator, hlast, if_neg Bool.false_ne_true, hmachine]; rfl
      reported := by rw [hreported, herror]; rfl
      trace_iff := by simp [hleft.trace_eq_iff, htracing, herror]
      errors_iff := by simp [hleft.errorMessages_ne, herror]
      failed := fun _ => ⟨fault, hfails, hleft⟩ }

end Agreement

/-- A frame that makes a single step agrees with a run of one step, but for what is noted of an
error, if no breakpoint stands at the program counter. -/
theorem agreesWithRun {l : FrameLoop ρ} (hpaused : l.running = false)
    (hinputs : l.frontend.inputs = [.step])
    (hpasses : l.emulator.breakpoints.contains l.emulator.pc = false) : l.AgreesWithRun := by
  obtain ⟨hreported, hemulator⟩ := frame_of_step hpaused hinputs
  have hgoes : ¬ Emulator.Breaks l.emulator.resumeFrom l.emulator := fun hbreaks => by
    rw [Emulator.Breaks, hpasses] at hbreaks
    exact Bool.false_ne_true hbreaks.1
  rcases Emulator.run_succ_cases hgoes 0 with
    ⟨-, hstep, hrun⟩ | ⟨after, hstep, hrun, -⟩ | ⟨fault, hstep, hrun⟩
  · simp only [singleStep, hstep] at hreported hemulator
    exact agreesWithRun_of_ne_error hrun StopReason.noConfusion hreported
      (by simp [breaksOff, hreported, hemulator])
  · simp only [singleStep, hstep] at hreported hemulator
    exact agreesWithRun_of_ne_error hrun StopReason.noConfusion hreported
      (by simp [breaksOff, hreported, hemulator])
  · have hfails : l.emulator.step.1 = .failed fault := by rw [hstep]
    cases fault with
    | undrawn cause =>
      simp only [singleStep, hstep] at hreported hemulator
      exact agreesWithRun_of_ne_error hrun StopReason.noConfusion hreported
        (by simp [breaksOff, hreported, hemulator])
    | stackOverflow _ _ | stackUnderflow _ =>
      simp only [singleStep, hstep] at hreported hemulator
      exact agreesWithRun_of_error hfails hreported hemulator hrun

/-- A paused frame loop in front of a return that finds the call stack empty, with tracing on, and
its front end asking for a step. -/
def returnAlone : FrameLoop Tape :=
  { emulator := (Emulator.initial { trace := true } (Tape.ofList [0])).after
      (.load [0x00, 0xEE] 0x200)
    frontend := .scripted { schedule := [(0, [.step])] }
    running := false }

theorem agreesWithRun_returnAlone :
    (returnAlone.running = false ∧ returnAlone.frontend.inputs = [.step] ∧
        returnAlone.emulator.breakpoints.contains returnAlone.emulator.pc = false) ∧
      (returnAlone.emulator.run 1).1 = .error ∧ returnAlone.AgreesWithRun :=
  ⟨⟨rfl, rfl, rfl⟩, by decide +kernel, agreesWithRun rfl rfl rfl⟩

/-- It is not so that a single step leaves the trace, or the reports of errors, that a run of one
step leaves. -/
theorem not_sameTrace_of_singleStep :
    (¬ ∀ l : FrameLoop Tape, l.running = false → l.frontend.inputs = [.step] →
        l.emulator.breakpoints.contains l.emulator.pc = false →
        l.frame.2.emulator.trace = (l.emulator.run 1).2.trace) ∧
      ¬ ∀ l : FrameLoop Tape, l.running = false → l.frontend.inputs = [.step] →
        l.emulator.breakpoints.contains l.emulator.pc = false →
        l.frame.2.emulator.errorMessages = (l.emulator.run 1).2.errorMessages := by
  refine ⟨fun hsame => ?_, fun hsame => ?_⟩
  · exact absurd (hsame returnAlone rfl rfl rfl) (by decide +kernel)
  · exact absurd (hsame returnAlone rfl rfl rfl) (by decide +kernel)

end FrameLoop

end Chip8
