/-
# Steps that fail

A step fails only at the call stack: at a return that finds it empty, and at a call that finds it at
its limit. Whether it does so is decided by registers and memory. A step that fails touches neither,
nor anything else but trace and journal, and from there on no other call touches them either, unless
it loads a program or resets the machine. So every later step meets the same fault, and a run that
ends in an error stands at the instruction that fails.
-/

import Chip8.Proofs.Emulator.Iteration
import Chip8.Proofs.Emulator.Traces
import Chip8.Proofs.Instruction.Words

namespace Chip8

/-- The instruction at the program counter asks of the call stack what it cannot give. -/
inductive StackFault (r : Registers) (m : Memory) : Fault → Prop
  /-- a return, and no call to return to -/
  | underflow (hword : m.readWord r.pc = 0x00EE) (hempty : r.stack = []) :
      StackFault r m (.stackUnderflow r.pc)
  /-- a call, and no room for it -/
  | overflow (hword : m.readWord r.pc / 0x1000 = 2) {limit : Int}
      (hlimit : r.stackLimit = some limit) (hfull : limit ≤ r.stack.length) :
      StackFault r m (.stackOverflow limit r.pc)

/-- The call neither loads a program nor takes one away. -/
def Call.KeepsProgram : Call → Prop
  | .load .. | .reset => False
  | _ => True

namespace Machine

variable {ρ : Type} [RandomSource ρ]

/-- From registers in range an instruction cannot be executed exactly if the call stack does not
allow it. -/
theorem execute_current_eq_error_iff {m : Machine ρ} {fault : Fault}
    (hrange : m.registers.InRange) :
    m.execute m.current = .error fault ↔ StackFault m.registers m.memory fault := by
  have hword : m.memory.readWord m.pc < 65536 := wordOfBytes_lt _ _
  constructor
  · intro hexecute
    rcases fault_of_execute hrange hexecute with
      ⟨hret, hempty, rfl⟩ | ⟨nnn, limit, hcall, hlimit, hfull, rfl⟩
    · exact .underflow ((decode_eq_ret_iff hword).1 hret) hempty
    · exact .overflow ((decode_eq_call_iff hword).1 ⟨nnn, hcall⟩) hlimit hfull
  · intro hfault
    cases hfault with
    | underflow hret hempty =>
      have hcurrent : m.current = .ret := (decode_eq_ret_iff hword).2 hret
      simp only [hcurrent, execute, Registers.pop, hempty]
    | overflow hcall hlimit hfull =>
      obtain ⟨nnn, hcurrent⟩ : ∃ nnn, m.current = .call nnn := (decode_eq_call_iff hword).2 hcall
      simp only [hcurrent, execute, Registers.push_of_full m.registers _ hlimit hfull]

end Machine

namespace Emulator

variable {ρ : Type} [RandomSource ρ]

/-- Steps that fail leave the emulator as it is, but for their traces, and go on failing. -/
structure FailsIntact (e : Emulator ρ) : Prop where
  fails_iff : ∀ fault, e.step.1 = .failed fault ↔ e.machine.registers.keyWait = none ∧
    StackFault e.machine.registers e.machine.memory fault
  /-- one line is traced, if any -/
  intact : ∀ fault, e.step.1 = .failed fault → e.step.2 = { e with
    trace := if e.tracing then e.trace.push e.machine.attempt else e.trace
    journal := e.step.2.journal }
  /-- whatever is called in between, further steps and runs included -/
  again : ∀ fault, e.step.1 = .failed fault →
    ∀ calls : List Call, (∀ c ∈ calls, c.KeepsProgram) →
      (e.step.2.afterAll calls).step.1 = .failed fault
  /-- a run that ends in an error has executed the instructions up to the one that fails -/
  run : ∀ bound, (e.run bound).1 = .error → ∃ k < bound, ∃ fault,
    (e.stepped k).step.1 = .failed fault ∧ e.EndsAfter bound k .error ∧
      (e.run bound).2.step.1 = .failed fault

section Failing

variable {e : Emulator ρ} {fault : Fault}

theorem step_failed_iff_stackFault (hrange : e.machine.registers.InRange) :
    e.step.1 = .failed fault ↔ e.machine.registers.keyWait = none ∧
      StackFault e.machine.registers e.machine.memory fault := by
  rw [step_failed_iff, Machine.execute_current_eq_error_iff hrange, Machine.waiting,
    Option.isSome_eq_false_iff, Option.isNone_iff_eq_none]

/-- A run from an instruction that fails executes nothing. -/
theorem machine_run_of_failed (hfails : e.step.1 = .failed fault) (bound : Nat) :
    (e.run bound).2.machine = e.machine := by
  cases bound with
  | zero => rfl
  | succ bound =>
    have hstops : e.StopsAt 0 := .inr (.inr ⟨fault, hfails⟩)
    rcases endsAfter_of_stopsAt (fun j hj => absurd hj (Nat.not_lt_zero j)) (Nat.succ_pos bound)
      hstops with hends | hends | ⟨_, -, hends⟩ <;> exact hends.machine

/-- At an instruction that fails, calls leave registers and memory alone. A key would be stored in a
register that waits for one, but then the instruction would not have failed. -/
theorem code_after (hfails : e.step.1 = .failed fault) (hfree : e.machine.registers.keyWait = none)
    {c : Call} (hc : c.KeepsProgram) :
    (e.after c).machine.registers = e.machine.registers ∧
      (e.after c).machine.memory = e.machine.memory := by
  cases c with
  | step =>
    have hafter : e.after .step = e.traceAttempt := congrArg Prod.snd (step_of_failed hfails)
    rw [hafter, traceAttempt_eq]
    exact ⟨rfl, rfl⟩
  | run bound =>
    have hmachine : (e.after (.run bound)).machine = e.machine := machine_run_of_failed hfails _
    rw [hmachine]
    exact ⟨rfl, rfl⟩
  | pressKey number =>
    have hbetween : (Call.pressKey number).BetweenSteps := trivial
    refine ⟨?_, (Unmoved.after e hbetween).memory⟩
    simp only [after, pressNumber]
    cases keyOf number with
    | error _ => rfl
    | ok key =>
      simp only [Except.map, Except.toOption, Option.getD_some, pressKey, Machine.pressKey, hfree]
  | tick | clearKeys | addBreakpoint _ | removeBreakpoint _ | clearBreakpoints | setTracing _
  | clearTrace => exact ⟨rfl, rfl⟩
  | load _ _ | reset => exact absurd hc id

theorem failed_afterAll (hrange : e.machine.registers.InRange) (hfails : e.step.1 = .failed fault)
    {calls : List Call} (hcalls : ∀ c ∈ calls, c.KeepsProgram) :
    (e.afterAll calls).step.1 = .failed fault := by
  induction calls generalizing e with
  | nil => exact hfails
  | cons c rest ih =>
    -- what decides the fault is the same behind the first call
    obtain ⟨hfree, hfault⟩ := (step_failed_iff_stackFault hrange).1 hfails
    obtain ⟨hregisters, hmemory⟩ := code_after hfails hfree (hcalls c List.mem_cons_self)
    have hlater : (e.after c).machine.registers.InRange := by rw [hregisters]; exact hrange
    have hagain : (e.after c).step.1 = .failed fault := by
      rw [step_failed_iff_stackFault hlater, hregisters, hmemory]
      exact ⟨hfree, hfault⟩
    exact ih hlater hagain fun d hd => hcalls d (List.mem_cons_of_mem c hd)

end Failing

/-- A step fails exactly if the call stack does not allow it, and then it leaves the machine intact,
whatever state in range it is made from. -/
theorem failsIntact {e : Emulator ρ} (hrange : e.machine.registers.InRange) : e.FailsIntact where
  fails_iff _ := step_failed_iff_stackFault hrange
  intact := by
    intro fault hfails
    rw [step_of_failed hfails, traceAttempt]
    split <;> rfl
  again := by
    intro fault hfails calls hcalls
    have hall : ∀ c ∈ Call.step :: calls, c.KeepsProgram :=
      List.forall_mem_cons.2 ⟨trivial, hcalls⟩
    exact failed_afterAll hrange hfails hall
  run := by
    intro bound herror
    obtain ⟨k, hk, fault, hfails, hends⟩ := exists_failed_of_run_eq_error herror
    refine ⟨k, hk, fault, hfails, hends, ?_⟩
    rw [step_failed_iff, hends.machine]
    exact step_failed_iff.1 hfails

/-- A program that calls itself at the limit on its call stack, with tracing on. -/
def recursing : Emulator Tape :=
  (initial { stackLimit := some 2, trace := true } (Tape.ofList [7])).afterAll
    [.load [0x60, 0x05, 0xF0, 0x15, 0x22, 0x04] 0x200, .run (some 4)]

theorem inRange_recursing : recursing.InRange :=
  (inRange_initial _ _).afterAll (by decide)

theorem failsIntact_recursing :
    recursing.machine.registers.InRange ∧
      recursing.step.1 = .failed (.stackOverflow 2 0x204) ∧ recursing.FailsIntact :=
  ⟨inRange_recursing.registers, by decide +kernel, failsIntact inRange_recursing.registers⟩

end Emulator

end Chip8
