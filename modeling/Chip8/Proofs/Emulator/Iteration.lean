/-
# Runs are steps one after the other

A run makes one step after the other until something stops it in front of the next one: a
breakpoint, a register that waits for a key, or an instruction that cannot be executed. If nothing
does, it ends at its bound. The states that a run passes through are those that calls of single
steps lead to, and the first of them at which something stops the run decides how it ends. Where
several things would stop it at once, the breakpoint comes first.

What stops a run does not depend on how many steps it has left. A run may therefore be cut in two
anywhere behind its first step, which is the only one that may pass a breakpoint.
-/

import Chip8.Proofs.Emulator.Calls

namespace Chip8

/-- How a run ends at a fault: a fault of the call stack is reported, and a sprite that is not drawn
breaks the run off. -/
def Fault.stopReason : Fault → StopReason
  | .undrawn reason => .broken reason
  | .stackOverflow _ _ | .stackUnderflow _ => .error

theorem Fault.stopReason_ne_timeout (fault : Fault) : fault.stopReason ≠ .timeout := by
  cases fault <;> exact StopReason.noConfusion

namespace Emulator

variable {ρ : Type} [RandomSource ρ]

/-- The emulator as a run starts with it: it remembers no breakpoint any more. -/
def started (e : Emulator ρ) : Emulator ρ := { e with resumeFrom := none }

/-- The emulator after so many calls of a step, whatever each of them comes to. -/
def stepped (e : Emulator ρ) (count : Nat) : Emulator ρ :=
  e.afterAll (List.replicate count .step)

/-- The breakpoint that does not stop a run in front of its instruction `k`: in front of the first
one that is the breakpoint where the last run stopped. -/
def exemptedAt (e : Emulator ρ) (k : Nat) : Option Int := if k = 0 then e.resumeFrom else none

/-- A run that exempts a breakpoint stops at one here. -/
def Breaks (exempted : Option Int) (e : Emulator ρ) : Prop :=
  e.breakpoints.contains e.pc = true ∧ exempted ≠ some e.pc

instance (exempted : Option Int) (e : Emulator ρ) : Decidable (Breaks exempted e) :=
  inferInstanceAs (Decidable (_ ∧ _))

/-- Something stops a run here that exempts a breakpoint. -/
def Stops (exempted : Option Int) (e : Emulator ρ) : Prop :=
  Breaks exempted e ∨ e.machine.waiting = true ∨ ∃ fault, e.step.1 = .failed fault

/-- A breakpoint stops a run in front of its instruction `k`. -/
def BreaksAt (e : Emulator ρ) (k : Nat) : Prop := Breaks (e.exemptedAt k) (e.stepped k)

/-- Something stops a run in front of its instruction `k`. -/
def StopsAt (e : Emulator ρ) (k : Nat) : Prop := Stops (e.exemptedAt k) (e.stepped k)

theorem stepped_succ (e : Emulator ρ) (count : Nat) :
    e.stepped (count + 1) = (e.stepped count).step.2 := by
  rw [stepped, List.replicate_succ', afterAll_append]
  rfl

theorem breakpoints_stepped (e : Emulator ρ) (count : Nat) :
    (e.stepped count).breakpoints = e.breakpoints := by
  induction count with
  | zero => rfl
  | succ count ih => rw [stepped_succ, step_eq, ih]

theorem inRange_stepped {e : Emulator ρ} (hrange : e.machine.registers.InRange) (count : Nat) :
    (e.stepped count).machine.registers.InRange := by
  induction count with
  | zero => exact hrange
  | succ count ih =>
    rw [stepped_succ]
    exact registers_inRange_step ih

omit [RandomSource ρ] in
theorem traceAttempt_started (e : Emulator ρ) :
    e.started.traceAttempt = e.traceAttempt.started := by
  unfold traceAttempt started
  dsimp only
  split <;> rfl

/-- The breakpoint that an emulator remembers does not show in its steps. -/
theorem step_started (e : Emulator ρ) : e.started.step = (e.step.1, e.step.2.started) := by
  unfold step
  rw [traceAttempt_started]
  cases hstep : e.machine.step <;> simp only [started, hstep]

/-- Nor does it show in what stops a run. -/
theorem stops_started {exempted : Option Int} {e : Emulator ρ} :
    Stops exempted e.started ↔ Stops exempted e := by
  unfold Stops
  rw [step_started]
  exact Iff.rfl

omit [RandomSource ρ] in
theorem stopAt_fst (e : Emulator ρ) (fault : Fault) : (e.stopAt fault).1 = fault.stopReason := by
  cases fault <;> rfl

omit [RandomSource ρ] in
theorem machine_stopAt (e : Emulator ρ) (fault : Fault) :
    (e.stopAt fault).2.machine = e.machine := by
  rw [(stopAt_eq e fault).2]

section Turns

variable {exempted : Option Int} {e : Emulator ρ}

omit [RandomSource ρ] in
theorem breaks_iff :
    (e.breakpoints.contains e.pc && exempted != some e.pc) = true ↔ Breaks exempted e := by
  rw [Breaks, Bool.and_eq_true, bne_iff_ne]

/-- Where nothing stops a run, the step is executed. -/
theorem executed_of_not_stops (hgoes : ¬ Stops exempted e) : e.step.1 = .executed := by
  rcases e.step_cases with ⟨hwaiting, -⟩ | ⟨machine, -, -, hstep⟩ | ⟨fault, -, -, hstep⟩
  · exact absurd (.inr (.inl hwaiting)) hgoes
  · rw [hstep]
  · exact absurd (.inr (.inr ⟨fault, by rw [hstep]⟩)) hgoes

theorem runFrom_of_breaks (hbreaks : Breaks exempted e) (bound : Nat) :
    runFrom exempted (bound + 1) e = (.breakpoint, e.noteBreakpoint) ∧
      runLengthFrom exempted (bound + 1) e = 0 := by
  have hstops := breaks_iff.2 hbreaks
  rw [runFrom, runLengthFrom, if_pos hstops, if_pos hstops]
  exact ⟨rfl, rfl⟩

theorem runFrom_of_waiting (hpasses : ¬ Breaks exempted e) (hwaiting : e.machine.waiting = true)
    (bound : Nat) : runFrom exempted (bound + 1) e = (.waitKey, e) ∧
      runLengthFrom exempted (bound + 1) e = 0 := by
  have hgoes := mt breaks_iff.1 hpasses
  rw [runFrom, runLengthFrom, if_neg hgoes, if_neg hgoes, step_of_waiting hwaiting]
  exact ⟨rfl, rfl⟩

theorem runFrom_of_failed (hpasses : ¬ Breaks exempted e) {fault : Fault}
    (hfails : e.step.1 = .failed fault) (bound : Nat) :
    runFrom exempted (bound + 1) e = (fault.stopReason, (e.traceAttempt.stopAt fault).2) ∧
      runLengthFrom exempted (bound + 1) e = 0 := by
  have hgoes := mt breaks_iff.1 hpasses
  rw [runFrom, runLengthFrom, if_neg hgoes, if_neg hgoes, step_of_failed hfails, ← stopAt_fst]
  exact ⟨rfl, rfl⟩

/-- Where something stops a run, it does so whatever is left of its bound. -/
theorem runFrom_of_stops (hstops : Stops exempted e) (bound other : Nat) :
    runFrom exempted (bound + 1) e = runFrom exempted (other + 1) e ∧
      (runFrom exempted (bound + 1) e).1 ≠ .timeout := by
  by_cases hbreaks : Breaks exempted e
  · rw [(runFrom_of_breaks hbreaks bound).1, (runFrom_of_breaks hbreaks other).1]
    exact ⟨rfl, StopReason.noConfusion⟩
  · rcases hstops with hhere | hwaiting | ⟨fault, hfails⟩
    · exact absurd hhere hbreaks
    · rw [(runFrom_of_waiting hbreaks hwaiting bound).1,
        (runFrom_of_waiting hbreaks hwaiting other).1]
      exact ⟨rfl, StopReason.noConfusion⟩
    · rw [(runFrom_of_failed hbreaks hfails bound).1, (runFrom_of_failed hbreaks hfails other).1]
      exact ⟨rfl, fault.stopReason_ne_timeout⟩

/-- Where nothing stops a run, it goes on behind the step, and exempts no breakpoint any more. -/
theorem runFrom_of_not_stops (hgoes : ¬ Stops exempted e) (bound : Nat) :
    runFrom exempted (bound + 1) e = runFrom none bound e.step.2 ∧
      runLengthFrom exempted (bound + 1) e = runLengthFrom none bound e.step.2 + 1 := by
  have hpasses : ¬ Breaks exempted e := fun hbreaks => hgoes (.inl hbreaks)
  have hstep : e.step = (.executed, e.step.2) := by rw [← executed_of_not_stops hgoes]
  constructor
  · rw [runFrom, if_neg (mt breaks_iff.1 hpasses), hstep]
  · rw [runLengthFrom, if_neg (mt breaks_iff.1 hpasses), hstep]

/-- The first step of a run that no breakpoint stops in front of it is a step of the emulator. -/
theorem run_succ_cases (hpasses : ¬ Breaks e.resumeFrom e) (bound : Nat) :
    (e.machine.waiting = true ∧ e.step = (.waiting, e) ∧
        e.run (bound + 1) = (.waitKey, e.started)) ∨
      (∃ after, e.step = (.executed, after) ∧
        e.run (bound + 1) = runFrom none bound after.started ∧
        e.runLength (bound + 1) = runLengthFrom none bound after.started + 1) ∨
      ∃ fault, e.step = (.failed fault, e.traceAttempt) ∧
        e.run (bound + 1) = e.traceAttempt.started.stopAt fault := by
  have hhere : ¬ Breaks e.resumeFrom e.started := hpasses
  rcases e.step_cases with ⟨hwaiting, hstep⟩ | ⟨machine, hfree, -, hstep⟩ | ⟨fault, -, -, hstep⟩
  · exact .inl ⟨hwaiting, hstep, (runFrom_of_waiting hhere hwaiting bound).1⟩
  · have hgoes : ¬ Stops e.resumeFrom e.started := by
      rw [stops_started]
      rintro (hbreaks | hwaiting | ⟨fault, hfails⟩)
      · exact hpasses hbreaks
      · exact Bool.false_ne_true (hfree.symm.trans hwaiting)
      · rw [hstep] at hfails
        cases hfails
    obtain ⟨hrun, hlength⟩ := runFrom_of_not_stops hgoes bound
    rw [step_started, hstep] at hrun hlength
    exact .inr (.inl ⟨_, hstep, hrun, hlength⟩)
  · have hfails : e.started.step.1 = .failed fault := by rw [step_started, hstep]
    have hrun := (runFrom_of_failed hhere hfails bound).1
    rw [← stopAt_fst, traceAttempt_started] at hrun
    exact .inr (.inr ⟨fault, hstep, hrun⟩)

end Turns

section Passing

variable {e : Emulator ρ} {k : Nat} (hgoes : ∀ j < k, ¬ e.StopsAt j)
include hgoes

/-- As long as nothing stops it, a run is where as many steps lead, with the rest of its bound. -/
theorem run_of_not_stopsAt (bound : Nat) :
    e.run (k + bound) = runFrom (e.exemptedAt k) bound (e.stepped k).started ∧
      e.runLength (k + bound) =
        k + runLengthFrom (e.exemptedAt k) bound (e.stepped k).started := by
  -- by the number of steps, not by the bound: the last of them is the one that is split off
  induction k generalizing bound with
  | zero =>
    rw [Nat.zero_add, Nat.zero_add]
    exact ⟨rfl, rfl⟩
  | succ k ih =>
    obtain ⟨hrun, hlength⟩ := ih (fun j hj => hgoes j (Nat.lt_succ_of_lt hj)) (bound + 1)
    have hhere : ¬ Stops (e.exemptedAt k) (e.stepped k).started :=
      mt stops_started.1 (hgoes k (Nat.lt_succ_self k))
    obtain ⟨hrest, hrestLength⟩ := runFrom_of_not_stops hhere bound
    rw [step_started] at hrest hrestLength
    rw [Nat.add_assoc, Nat.add_comm 1 bound, stepped_succ, hrun, hlength, hrest, hrestLength]
    exact ⟨rfl, Nat.add_right_comm k _ 1⟩

end Passing

/-- A run of at most `n` steps makes `k` of them and ends for a reason. -/
structure EndsAfter (e : Emulator ρ) (n k : Nat) (reason : StopReason) : Prop where
  result : (e.run n).1 = reason
  /-- each of the steps is executed -/
  executed : ∀ j < k, (e.stepped j).step.1 = .executed
  /-- and nothing else is -/
  length : e.runLength n = k
  /-- the machine is where the steps lead -/
  machine : (e.run n).2.machine = (e.stepped k).machine
  /-- a breakpoint that ends the run is remembered, and no other -/
  resumeFrom : (e.run n).2.resumeFrom = if reason = .breakpoint then some (e.stepped k).pc else none

section Ending

variable {e : Emulator ρ} {n k : Nat} (hgoes : ∀ j < k, ¬ e.StopsAt j)
include hgoes

/-- Where a run goes on no further decides how it ends. -/
theorem endsAfter {bound : Nat} {reason : StopReason} {last : Emulator ρ}
    (hends : runFrom (e.exemptedAt k) bound (e.stepped k).started = (reason, last) ∧
      runLengthFrom (e.exemptedAt k) bound (e.stepped k).started = 0)
    (hmachine : last.machine = (e.stepped k).machine) :
    e.EndsAfter (k + bound) k reason := by
  obtain ⟨hrun, hlength⟩ := run_of_not_stopsAt hgoes bound
  rw [hends.1] at hrun
  rw [hends.2] at hlength
  have hmarker := e.resumeFrom_run (k + bound)
  rw [hrun, pc, hmachine] at hmarker
  exact
    { result := congrArg Prod.fst hrun
      executed := fun j hj => executed_of_not_stops (hgoes j hj)
      length := hlength
      machine := by rw [hrun, hmachine]
      resumeFrom := by rw [hrun]; exact hmarker }

/-- Nothing stops the run: it makes all its steps. -/
theorem endsAfter_of_not_stopsAt : e.EndsAfter k k .timeout :=
  have hends : runFrom (e.exemptedAt k) 0 (e.stepped k).started =
      (.timeout, (e.stepped k).started) ∧
      runLengthFrom (e.exemptedAt k) 0 (e.stepped k).started = 0 := ⟨rfl, rfl⟩
  endsAfter hgoes hends rfl

theorem endsAfter_of_breaksAt (hn : k < n) (hbreaks : e.BreaksAt k) :
    e.EndsAfter n k .breakpoint := by
  obtain ⟨rest, rfl⟩ := Nat.exists_eq_add_of_lt hn
  have hhere : Breaks (e.exemptedAt k) (e.stepped k).started := hbreaks
  exact endsAfter hgoes (runFrom_of_breaks hhere rest) rfl

theorem endsAfter_of_waiting (hn : k < n) (hpasses : ¬ e.BreaksAt k)
    (hwaiting : (e.stepped k).machine.waiting = true) : e.EndsAfter n k .waitKey := by
  obtain ⟨rest, rfl⟩ := Nat.exists_eq_add_of_lt hn
  have hgone : ¬ Breaks (e.exemptedAt k) (e.stepped k).started := hpasses
  have hhere : (e.stepped k).started.machine.waiting = true := hwaiting
  exact endsAfter hgoes (runFrom_of_waiting hgone hhere rest) rfl

theorem endsAfter_of_failed (hn : k < n) (hpasses : ¬ e.BreaksAt k) {fault : Fault}
    (hfails : (e.stepped k).step.1 = .failed fault) : e.EndsAfter n k fault.stopReason := by
  obtain ⟨rest, rfl⟩ := Nat.exists_eq_add_of_lt hn
  have hgone : ¬ Breaks (e.exemptedAt k) (e.stepped k).started := hpasses
  have hhere : (e.stepped k).started.step.1 = .failed fault := by rw [step_started, hfails]
  have hmachine : ((e.stepped k).started.traceAttempt.stopAt fault).2.machine =
      (e.stepped k).machine := by
    rw [machine_stopAt, traceAttempt_eq]
    rfl
  exact endsAfter hgoes (runFrom_of_failed hgone hhere rest) hmachine

/-- Something stops the run: it ends there. -/
theorem endsAfter_of_stopsAt (hn : k < n) (hstops : e.StopsAt k) :
    e.EndsAfter n k .breakpoint ∨ e.EndsAfter n k .waitKey ∨
      ∃ fault, (e.stepped k).step.1 = .failed fault ∧ e.EndsAfter n k fault.stopReason := by
  by_cases hbreaks : e.BreaksAt k
  · exact .inl (endsAfter_of_breaksAt hgoes hn hbreaks)
  · rcases hstops with hhere | hwaiting | ⟨fault, hfails⟩
    · exact absurd hhere hbreaks
    · exact .inr (.inl (endsAfter_of_waiting hgoes hn hbreaks hwaiting))
    · exact .inr (.inr ⟨fault, hfails, endsAfter_of_failed hgoes hn hbreaks hfails⟩)

end Ending

/-- Either there is a first instruction that something stops a run in front of, or there is none. -/
theorem stopsAt_first_or_none (e : Emulator ρ) (n : Nat) :
    (∃ k < n, (∀ j < k, ¬ e.StopsAt j) ∧ e.StopsAt k) ∨ ∀ k < n, ¬ e.StopsAt k := by
  induction n with
  | zero => exact .inr fun k hk => absurd hk (Nat.not_lt_zero k)
  | succ n ih =>
    rcases ih with ⟨k, hk, hfirst⟩ | hnone
    · exact .inl ⟨k, Nat.lt_succ_of_lt hk, hfirst⟩
    · by_cases hstops : e.StopsAt n
      · exact .inl ⟨n, Nat.lt_succ_self n, hnone, hstops⟩
      · refine .inr fun k hk => ?_
        rcases Nat.lt_succ_iff_lt_or_eq.1 hk with hbefore | rfl
        · exact hnone k hbefore
        · exact hstops

/-- A run that ends in an error does so in front of an instruction that fails. -/
theorem exists_failed_of_run_eq_error {e : Emulator ρ} {n : Nat} (herror : (e.run n).1 = .error) :
    ∃ k < n, ∃ fault, (e.stepped k).step.1 = .failed fault ∧ e.EndsAfter n k .error := by
  rcases e.stopsAt_first_or_none n with ⟨k, hk, hgoes, hstops⟩ | hgoes
  · rcases endsAfter_of_stopsAt hgoes hk hstops with hends | hends | ⟨fault, hfails, hends⟩
    · exact StopReason.noConfusion (herror.symm.trans hends.result)
    · exact StopReason.noConfusion (herror.symm.trans hends.result)
    · rw [← herror.symm.trans hends.result] at hends
      exact ⟨k, hk, fault, hfails, hends⟩
  · exact StopReason.noConfusion (herror.symm.trans (endsAfter_of_not_stopsAt hgoes).result)

/-- A run makes no step that something stops it in front of, and not more than its bound. -/
theorem not_stopsAt_of_lt_runLength (e : Emulator ρ) (n : Nat) :
    e.runLength n ≤ n ∧ ∀ k < e.runLength n, ¬ e.StopsAt k := by
  rcases e.stopsAt_first_or_none n with ⟨k, hk, hgoes, hstops⟩ | hgoes
  · have hlength : e.runLength n = k := by
      rcases endsAfter_of_stopsAt hgoes hk hstops with hends | hends | ⟨fault, -, hends⟩ <;>
        exact hends.length
    rw [hlength]
    exact ⟨Nat.le_of_lt hk, hgoes⟩
  · rw [(endsAfter_of_not_stopsAt hgoes).length]
    exact ⟨Nat.le_refl n, hgoes⟩

/-- A run of at most `n` steps makes one step after the other, up to the first instruction that
something stops it in front of. -/
structure RunsBySteps (e : Emulator ρ) (n : Nat) : Prop where
  /-- a breakpoint comes first -/
  breakpoint : ∀ k < n, (∀ j < k, ¬ e.StopsAt j) → e.BreaksAt k → e.EndsAfter n k .breakpoint
  waitKey : ∀ k < n, (∀ j < k, ¬ e.StopsAt j) → ¬ e.BreaksAt k →
    (e.stepped k).machine.waiting = true → e.EndsAfter n k .waitKey
  failed : ∀ k < n, (∀ j < k, ¬ e.StopsAt j) → ¬ e.BreaksAt k →
    ∀ fault, (e.stepped k).step.1 = .failed fault → e.EndsAfter n k fault.stopReason
  /-- of a machine in range every failure is an error -/
  error : e.machine.registers.InRange →
    ∀ k fault, (e.stepped k).step.1 = .failed fault → fault.stopReason = .error
  timeout : (∀ k < n, ¬ e.StopsAt k) → e.EndsAfter n n .timeout
  bounded : e.runLength n ≤ n
  /-- no instruction at a breakpoint is executed, except where the last run stopped -/
  passed : ∀ k < e.runLength n, e.breakpoints.contains (e.stepped k).pc = true →
    k = 0 ∧ e.resumeFrom = some e.pc

/-- Every run is bounded iteration of steps, whatever the program, the breakpoints and the
breakpoint where the last run stopped. -/
theorem runsBySteps (e : Emulator ρ) (n : Nat) : e.RunsBySteps n where
  breakpoint _ hk hgoes hbreaks := endsAfter_of_breaksAt hgoes hk hbreaks
  waitKey _ hk hgoes hpasses hwaiting := endsAfter_of_waiting hgoes hk hpasses hwaiting
  failed _ hk hgoes hpasses _ hfails := endsAfter_of_failed hgoes hk hpasses hfails
  error := by
    intro hrange k fault hfails
    rcases fault_of_step (inRange_stepped hrange k) hfails with ⟨_, rfl⟩ | ⟨_, _, rfl⟩ <;> rfl
  timeout hgoes := endsAfter_of_not_stopsAt hgoes
  bounded := (e.not_stopsAt_of_lt_runLength n).1
  passed := by
    intro k hk hcontains
    have hpasses : ¬ e.BreaksAt k := fun hbreaks =>
      (e.not_stopsAt_of_lt_runLength n).2 k hk (.inl hbreaks)
    -- a breakpoint that does not stop the run is the exempted one
    have hexempted : e.exemptedAt k = some (e.stepped k).pc := by
      have hstands : (e.stepped k).breakpoints.contains (e.stepped k).pc = true := by
        rw [breakpoints_stepped, hcontains]
      exact Decidable.not_not.1 fun hother => hpasses ⟨hstands, hother⟩
    cases k with
    | zero => exact ⟨rfl, hexempted⟩
    | succ k => cases hexempted

/-- A run may be cut in two behind any of its steps: if the first part reaches its bound, the second
one ends as the whole run does, and otherwise the whole run ends as the first part. -/
theorem run_split (e : Emulator ρ) {m : Nat} (hm : 1 ≤ m) (n : Nat) :
    ((e.run m).1 = .timeout → (e.run m).2.run n = e.run (m + n)) ∧
      ((e.run m).1 ≠ .timeout → e.run (m + n) = e.run m) := by
  rcases e.stopsAt_first_or_none m with ⟨k, hk, hgoes, hstops⟩ | hgoes
  · -- the first part is stopped, and so is the whole run at the same place
    obtain ⟨rest, rfl⟩ := Nat.exists_eq_add_of_lt hk
    have hhere : Stops (e.exemptedAt k) (e.stepped k).started := stops_started.2 hstops
    obtain ⟨hsame, hreason⟩ := runFrom_of_stops hhere rest (rest + n)
    rw [← (run_of_not_stopsAt hgoes (rest + 1)).1] at hsame hreason
    rw [← (run_of_not_stopsAt hgoes (rest + n + 1)).1] at hsame
    refine ⟨fun htimeout => absurd htimeout hreason, fun _ => ?_⟩
    rw [show k + rest + 1 + n = k + (rest + n + 1) by omega]
    exact hsame.symm
  · -- the second part exempts no breakpoint, just as the whole run does behind its first step
    have hfirst : e.run m = (.timeout, (e.stepped m).started) :=
      (run_of_not_stopsAt hgoes 0).1
    have hexempted : e.exemptedAt m = none := if_neg (by omega)
    refine ⟨fun _ => ?_, fun hother => absurd (congrArg Prod.fst hfirst) hother⟩
    rw [(run_of_not_stopsAt hgoes n).1, hexempted, hfirst]
    rfl

/-- A jump to itself with a breakpoint at it, where the last run has stopped. -/
def stoppedLoop : Emulator Tape :=
  (initial { trace := true } (Tape.ofList [7])).afterAll
    [.load [0x12, 0x00] 0x200, .addBreakpoint 0x200, .run (some 5)]

theorem run_split_stoppedLoop :
    1 ≤ 1 ∧ ((stoppedLoop.run 1).1 = .timeout ∧
      (stoppedLoop.run 1).2.run 3 = stoppedLoop.run (1 + 3)) ∧
    1 ≤ 2 ∧ (stoppedLoop.run 2).1 = .breakpoint ∧ stoppedLoop.run (2 + 3) = stoppedLoop.run 2 :=
  have htimeout : (stoppedLoop.run 1).1 = .timeout := by decide +kernel
  have hbreaks : (stoppedLoop.run 2).1 = .breakpoint := by decide +kernel
  ⟨by decide, ⟨htimeout, (run_split stoppedLoop (by decide) 3).1 htimeout⟩, by decide, hbreaks,
    (run_split stoppedLoop (by decide) 3).2 (by rw [hbreaks]; exact StopReason.noConfusion)⟩

end Emulator

end Chip8
