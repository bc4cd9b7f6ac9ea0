/-
# Tracing does not interfere

Emulators that differ in nothing but tracing answer every call alike and stay the same in
everything else, wherever either of them switches tracing on or off or empties its trace. As long as
tracing is on, the trace tells line by line which instructions have been attempted.

Two emulators are compared without what tracing leaves: the switch, the trace and the events that
show its lines. Taking these away is a watching change.
-/

import Chip8.Proofs.Emulator.TraceLines
import Chip8.Proofs.Emulator.Traces

namespace Chip8

/-- The call concerns nothing but tracing. -/
def Call.concernsTracing : Call → Bool
  | .setTracing _ | .clearTrace => true
  | _ => false

theorem Call.not_isSwitch {c : Call} (hc : c.concernsTracing = false) : ¬ c.IsSwitch := by
  cases c with
  | setTracing on => exact absurd hc Bool.noConfusion
  | _ => exact id

namespace Emulator

variable {ρ : Type} [RandomSource ρ]

/-- The emulator without what tracing leaves. -/
def untraced (e : Emulator ρ) : Emulator ρ :=
  { e with
    config := { e.config with trace := false }
    tracing := false
    trace := #[]
    journal := e.journal.filter fun event => !event.isTraced }

omit [RandomSource ρ] in
theorem untraced_untraced (e : Emulator ρ) : e.untraced.untraced = e.untraced := by
  simp [untraced]

omit [RandomSource ρ] in
/-- Tracing an attempt leaves nothing but a trace. -/
theorem untraced_traceAttempt (e : Emulator ρ) : e.traceAttempt.untraced = e.untraced := by
  unfold traceAttempt
  by_cases htracing : e.tracing = true
  · rw [if_pos htracing]
    simp [untraced, report, Event.isTraced]
  · rw [if_neg htracing]

omit [RandomSource ρ] in
theorem untraced_report (e : Emulator ρ) (event : Event) (hevent : event.isTraced = false) :
    (e.report event).untraced = e.untraced.report event := by
  simp [untraced, report, hevent]

omit [RandomSource ρ] in
/-- Taking away what tracing leaves is a watching change. -/
theorem watching_untraced : Watching fun e : Emulator ρ => e.untraced where
  machine := fun _ => rfl
  seed := fun _ => rfl
  breakpoints := fun _ => rfl
  resumeFrom := fun _ => rfl
  withMachine := fun _ _ => rfl
  withBreakpoints := fun _ _ => rfl
  withResumeFrom := fun _ _ => rfl
  report := fun e => e.untraced_report
  traceAttempt := fun e => e.untraced_traceAttempt
  noteFailure := by
    intro e fault
    have hreport := e.untraced_report
      (.runFailed fault e.pc e.currentWord (decode e.currentWord)) rfl
    unfold noteFailure
    by_cases htracing : e.tracing = true
    · rw [if_pos htracing]
      exact hreport
    · rw [if_neg htracing]
      exact hreport
  clearTrace := fun _ => rfl

/-- What the calls answer, each with the emulator that it leaves, tracing apart. Calls that concern
nothing but tracing are passed over. -/
def observed (e : Emulator ρ) : List Call → List (Answer × Emulator ρ)
  | [] => []
  | c :: rest =>
    if c.concernsTracing then (e.after c).observed rest
    else (e.answer c, (e.after c).untraced) :: (e.after c).observed rest

theorem untraced_after_of_concernsTracing (e : Emulator ρ) {c : Call}
    (hc : c.concernsTracing = true) : (e.after c).untraced = e.untraced := by
  cases c with
  | setTracing on | clearTrace => rfl
  | _ => cases hc

/-- A call does to an untraced emulator what it does to a traced one. -/
theorem untraced_after (e : Emulator ρ) {c : Call} (hc : c.concernsTracing = false) :
    (e.after c).untraced = e.untraced.after c :=
  watching_untraced.after e (Call.not_isSwitch hc)

/-- What is observed does not depend on tracing, nor on the calls that concern it. -/
theorem observed_eq (e : Emulator ρ) (calls : List Call) :
    e.observed calls = e.untraced.observed (calls.filter fun c => !c.concernsTracing) := by
  induction calls generalizing e with
  | nil => rfl
  | cons c rest ih =>
    rw [observed, ih (e.after c)]
    cases hc : c.concernsTracing with
    | true =>
      rw [List.filter_cons_of_neg (by simp [hc]), untraced_after_of_concernsTracing e hc]
      rfl
    | false =>
      have hanswer : e.untraced.answer c = e.answer c := watching_untraced.answer e c
      rw [List.filter_cons_of_pos (by simp [hc]), observed, hc, hanswer, ← untraced_after e hc,
        untraced_untraced]

theorem untraced_afterAll (e : Emulator ρ) (calls : List Call) :
    (e.afterAll calls).untraced =
      e.untraced.afterAll (calls.filter fun c => !c.concernsTracing) := by
  induction calls generalizing e with
  | nil => rfl
  | cons c rest ih =>
    refine (ih (e.after c)).trans ?_
    cases hc : c.concernsTracing with
    | true =>
      rw [List.filter_cons_of_neg (by simp [hc]), untraced_after_of_concernsTracing e hc]
    | false =>
      rw [List.filter_cons_of_pos (by simp [hc]), untraced_after e hc]
      rfl

/-- The emulators differ in nothing but tracing, whatever has been called. -/
structure DifferInTracing (e f : Emulator ρ) (calls others : List Call) : Prop where
  /-- every call has the same answer and leaves the same emulator, tracing apart -/
  observed : e.observed calls = f.observed others
  state : (e.afterAll calls).untraced = (f.afterAll others).untraced
  /-- as long as tracing is on, every call adds a line for each instruction that it attempts, and a
  run that ends in an error adds one for the fault -/
  traces : e.tracing = true → .setTracing false ∉ calls →
    ∀ before c rest, calls = before ++ c :: rest → (e.afterAll before).TracesCall c
  /-- an entry of the trace is one line of its text -/
  lines : (e.afterAll calls).trace ≠ #[] →
    Text.cut (· == '\n') (e.afterAll calls).traceText =
      (e.afterAll calls).trace.toList.map TraceEntry.text

/-- Emulators that differ in nothing but tracing, and that are called alike except for switching
tracing and emptying the trace, go on to differ in nothing else, and the trace tells what they
attempt. -/
theorem differInTracing (e f : Emulator ρ) (calls others : List Call)
    (hsame : e.untraced = f.untraced)
    (hcalls : (calls.filter fun c => !c.concernsTracing) =
      others.filter fun c => !c.concernsTracing) : DifferInTracing e f calls others where
  observed := by rw [observed_eq e, observed_eq f, hsame, hcalls]
  state := by rw [untraced_afterAll e, untraced_afterAll f, hsame, hcalls]
  traces := by
    rintro htracing hon before c rest rfl
    simp only [List.mem_append, List.mem_cons, not_or] at hon
    obtain ⟨hbefore, hc, -⟩ := hon
    exact tracesCall (tracing_afterAll htracing hbefore) (Ne.symm hc)
  lines := fun hne => cut_traceText _ hne

/-- A program stops at a breakpoint, waits for a key and returns from nowhere. -/
def plainCalls : List Call :=
  [.load [0x61, 0x05, 0xF2, 0x0A, 0x00, 0xEE] 0x200, .addBreakpoint 0x202, .run (some 9),
    .run (some 9), .step, .pressKey 5, .run (some 9), .step]

/-- The same, with tracing switched on for the run that fails. -/
def switchedCalls : List Call :=
  [.load [0x61, 0x05, 0xF2, 0x0A, 0x00, 0xEE] 0x200, .addBreakpoint 0x202, .clearTrace,
    .run (some 9), .run (some 9), .step, .pressKey 5, .setTracing true, .run (some 9),
    .setTracing false, .step]

theorem differInTracing_switched :
    ((initial { trace := true } (Tape.ofList [7])).untraced =
          (initial {} (Tape.ofList [7])).untraced ∧
        (plainCalls.filter fun c => !c.concernsTracing) =
          switchedCalls.filter fun c => !c.concernsTracing) ∧
      DifferInTracing (initial { trace := true } (Tape.ofList [7])) (initial {} (Tape.ofList [7]))
        plainCalls switchedCalls ∧
      ((initial { trace := true } (Tape.ofList [7])).afterAll plainCalls).trace.size = 5 ∧
      ((initial {} (Tape.ofList [7])).afterAll switchedCalls).trace.size = 2 := by
  have hsame : (initial { trace := true } (Tape.ofList [7])).untraced =
      (initial {} (Tape.ofList [7])).untraced := rfl
  have hcalls : (plainCalls.filter fun c => !c.concernsTracing) =
      switchedCalls.filter fun c => !c.concernsTracing := by decide
  exact ⟨⟨hsame, hcalls⟩, differInTracing _ _ plainCalls switchedCalls hsame hcalls,
    by decide +kernel, by decide +kernel⟩

end Emulator

end Chip8
