/-
# Runs from a breakpoint

A run that starts at the breakpoint that stopped the run before steps past it. The breakpoint is
remembered for one run only, even for one that does not come to execute anything: its bound may be
zero, a register may wait for a key, or the instruction at the breakpoint may fail. The run after
such a one stops at the same breakpoint again.
-/

import Chip8.Proofs.Emulator.Calls

namespace Chip8

namespace Emulator

variable {ρ : Type} [RandomSource ρ]

/-- How the last run ended, once one more call has been made. -/
def stopAfter (e : Emulator ρ) (last : StopReason) : Call → StopReason
  | .run bound => (e.run ((bound.map Int.toNat).getD defaultBound)).1
  | _ => last

theorem stopAfter_of_betweenSteps {e : Emulator ρ} {last : StopReason} {c : Call}
    (hc : c.BetweenSteps) : e.stopAfter last c = last := by
  cases c with
  | run _ => exact absurd hc id
  | _ => rfl

/-- How the last run ended, once more calls have been made. -/
def lastStop (e : Emulator ρ) (last : StopReason) : List Call → StopReason
  | [] => last
  | c :: rest => (e.after c).lastStop (e.stopAfter last c) rest

/-- The emulator stands where the run that left `stopped` ended. It remembers the breakpoint there
if the last of the runs since has ended at it as well. -/
structure Rests (stopped : Emulator ρ) (last : StopReason) (e : Emulator ρ) : Prop where
  pc : e.pc = stopped.pc
  breakpoints : e.breakpoints = stopped.breakpoints
  resumeFrom : e.resumeFrom = if last = .breakpoint then some stopped.pc else none

namespace Rests

variable {stopped e : Emulator ρ} {last : StopReason}

/-- A call that executes nothing does not move the emulator. -/
theorem after (h : Rests stopped last e) {c : Call}
    (hc : (∃ bound, c = .run bound) ∨ c.BetweenSteps) (hidle : e.executedBy c = 0) :
    Rests stopped (e.stopAfter last c) (e.after c) := by
  rcases hc with ⟨bound, rfl⟩ | hbetween
  · obtain ⟨hmachine, hbreakpoints⟩ := idle_run hidle
    have hpc : (e.after (.run bound)).pc = stopped.pc :=
      (congrArg Machine.pc hmachine).trans h.pc
    refine ⟨hpc, hbreakpoints.trans h.breakpoints, ?_⟩
    rw [← hpc]
    exact resumeFrom_run e _
  · have hsame := Unmoved.after e hbetween
    refine ⟨hsame.pc.trans h.pc, hsame.breakpoints.trans h.breakpoints, ?_⟩
    rw [hsame.resumeFrom, stopAfter_of_betweenSteps hbetween, h.resumeFrom]

theorem afterAll (h : Rests stopped last e) {calls : List Call}
    (hcalls : ∀ c ∈ calls, (∃ bound, c = .run bound) ∨ c.BetweenSteps)
    (hidle : e.executedByAll calls = 0) :
    Rests stopped (e.lastStop last calls) (e.afterAll calls) := by
  induction calls generalizing e last with
  | nil => exact h
  | cons c rest ih =>
    obtain ⟨hnow, hlater⟩ := Nat.add_eq_zero_iff.1 hidle
    have hafter := h.after (hcalls c List.mem_cons_self) hnow
    exact ih hafter (fun d hd => hcalls d (List.mem_cons_of_mem c hd)) hlater

end Rests

/-- As long as nothing is executed since a run stopped at a breakpoint, the program stays there, and
another run stops there again at once exactly if it makes a step at all and the run before it has
ended otherwise. A run that starts at the breakpoint it last stopped at steps past it. -/
theorem breaks_again_iff {e stopped : Emulator ρ} {first : Nat}
    (hbreak : e.run first = (.breakpoint, stopped)) (calls : List Call) (bound : Nat)
    (hcalls : ∀ c ∈ calls, (∃ bound, c = .run bound) ∨ c.BetweenSteps)
    (hidle : stopped.executedByAll calls = 0) :
    (stopped.afterAll calls).pc = stopped.pc ∧
      (stopped.afterAll calls).breakpoints.contains stopped.pc = true ∧
      (((stopped.afterAll calls).run bound).1 = .breakpoint ∧
          (stopped.afterAll calls).runLength bound = 0 ↔
        0 < bound ∧ stopped.lastStop .breakpoint calls ≠ .breakpoint) := by
  have hreason : (e.run first).1 = .breakpoint := by rw [hbreak]
  have hresume : stopped.resumeFrom = some stopped.pc := by
    have hremembers := resumeFrom_run e first
    rwa [if_pos hreason, hbreak] at hremembers
  have hcontains : stopped.breakpoints.contains stopped.pc = true := by
    have hstands := contains_of_run_eq_breakpoint hreason
    rwa [hbreak] at hstands
  have hstart : Rests stopped .breakpoint stopped := ⟨rfl, rfl, hresume⟩
  have hrests := hstart.afterAll hcalls hidle
  generalize stopped.lastStop .breakpoint calls = last at hrests ⊢
  refine ⟨hrests.pc, by rw [hrests.breakpoints, hcontains], ?_⟩
  rw [run_eq_breakpoint_at_once_iff, hrests.breakpoints, hrests.pc, hcontains, hrests.resumeFrom]
  by_cases hlast : last = .breakpoint
  · simp [hlast]
  · simp [hlast]

/-- A program that waits for a key in front of a breakpoint, stopped there. -/
def waitStopped : StopReason × Emulator Tape :=
  ((initial {} (Tape.ofList [0])).afterAll
    [.load [0xF0, 0x0A, 0x71, 0x01, 0x71, 0x01] 0x200, .addBreakpoint 0x202]).run 10

/-- A run that meets the wait, and the key that ends it. -/
def waitCalls : List Call := [.run (some 10), .tick, .pressKey 5]

theorem waitCalls_spec :
    ∀ c ∈ waitCalls, (∃ bound, c = .run bound) ∨ c.BetweenSteps := by
  intro c hc
  simp only [waitCalls, List.mem_cons, List.not_mem_nil, or_false] at hc
  rcases hc with rfl | rfl | rfl
  · exact .inl ⟨some 10, rfl⟩
  · exact .inr trivial
  · exact .inr trivial

theorem breaks_again_iff_wait :
    (waitStopped = (.breakpoint, waitStopped.2) ∧
        (∀ c ∈ waitCalls, (∃ bound, c = .run bound) ∨ c.BetweenSteps) ∧
        waitStopped.2.executedByAll waitCalls = 0) ∧
      waitStopped.2.lastStop .breakpoint waitCalls = .waitKey ∧
      ((waitStopped.2.afterAll waitCalls).run 1).1 = .breakpoint ∧
      (waitStopped.2.afterAll waitCalls).runLength 1 = 0 := by
  have hreason : waitStopped.1 = .breakpoint := by decide +kernel
  have hbreak : waitStopped = (.breakpoint, waitStopped.2) := by rw [← hreason]
  have hidle : waitStopped.2.executedByAll waitCalls = 0 := by decide +kernel
  have hlast : waitStopped.2.lastStop .breakpoint waitCalls = .waitKey := by decide +kernel
  have hagain := (breaks_again_iff hbreak waitCalls 1 waitCalls_spec hidle).2.2.2
    ⟨Nat.one_pos, by rw [hlast]; exact StopReason.noConfusion⟩
  exact ⟨⟨hbreak, waitCalls_spec, hidle⟩, hlast, hagain⟩

/-- It is not so that a run which stops at a breakpoint again has executed something since: the
breakpoint is forgotten behind a run that waits for a key. -/
theorem not_executed_of_breaks_again :
    ¬ ∀ (e stopped again : Emulator Tape) (first bound : Nat) (calls : List Call),
        e.run first = (.breakpoint, stopped) →
        (∀ c ∈ calls, (∃ bound, c = .run bound) ∨ c.BetweenSteps) →
        (stopped.afterAll calls).run bound = (.breakpoint, again) → again.pc = stopped.pc →
        0 < stopped.executedByAll calls + (stopped.afterAll calls).runLength bound := by
  intro hprogress
  have hreason : waitStopped.1 = .breakpoint := by decide +kernel
  have hagain : ((waitStopped.2.afterAll waitCalls).run 1).1 = .breakpoint := by decide +kernel
  have hexecuted := hprogress _ waitStopped.2 ((waitStopped.2.afterAll waitCalls).run 1).2 10 1
    waitCalls (by rw [← hreason, waitStopped]) waitCalls_spec (by rw [← hagain])
    (by decide +kernel)
  exact absurd hexecuted (by decide +kernel)

end Emulator

end Chip8
