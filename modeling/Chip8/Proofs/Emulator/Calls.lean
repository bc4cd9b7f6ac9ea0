/-
# Calls of the emulator

Between its runs an emulator is operated by calls: ROMs are loaded, keys pressed, breakpoints set,
and steps and runs made. Calls that are refused leave the emulator as it was. The main statement is
that after any calls in any order every part of the machine holds values of its width, so that the
only faults that a step can meet are those of the call stack.
-/

import Chip8.Proofs.Emulator.Runs
import Chip8.Proofs.Machine.Ranges

namespace Chip8

/-- What a user can do with an emulator. -/
inductive Call where
  /-- load a ROM at an address -/
  | load (rom : List UInt8) (base : Int)
  /-- make one step -/
  | step
  /-- make a run, of the usual length if no bound is given -/
  | run (bound : Option Int)
  /-- let one frame pass for the timers -/
  | tick
  /-- press the key with a number -/
  | pressKey (number : Int)
  /-- let all keys come up -/
  | clearKeys
  | addBreakpoint (address : Int)
  | removeBreakpoint (address : Int)
  | clearBreakpoints
  /-- switch tracing on or off -/
  | setTracing (on : Bool)
  | clearTrace
  /-- go back to power-on state -/
  | reset
  deriving DecidableEq, Repr

/-- A ROM is only loaded at an address of the memory. -/
def Call.BaseInRange : Call → Prop
  | .load _ base => 0 ≤ base ∧ base ≤ 0xFFF
  | _ => True

instance : DecidablePred Call.BaseInRange
  | .load _ base => inferInstanceAs (Decidable (0 ≤ base ∧ base ≤ 0xFFF))
  | .step | .run _ | .tick | .pressKey _ | .clearKeys | .addBreakpoint _ | .removeBreakpoint _
  | .clearBreakpoints | .setTracing _ | .clearTrace | .reset => .isTrue trivial

/-- What may happen between the steps of a program: time passes and keys are used. -/
def Call.BetweenSteps : Call → Prop
  | .tick | .pressKey _ | .clearKeys => True
  | _ => False

instance : DecidablePred Call.BetweenSteps
  | .tick | .pressKey _ | .clearKeys => .isTrue trivial
  | .load .. | .step | .run _ | .addBreakpoint _ | .removeBreakpoint _ | .clearBreakpoints
  | .setTracing _ | .clearTrace | .reset => .isFalse id

namespace Emulator

variable {ρ : Type} [RandomSource ρ]

/-- The emulator that a call leaves, also if it is refused or fails. -/
def after (e : Emulator ρ) : Call → Emulator ρ
  | .load rom base => ((e.load rom base).toOption).getD e
  | .step => e.step.2
  | .run bound => (e.run ((bound.map Int.toNat).getD defaultBound)).2
  | .tick => e.tick
  | .pressKey number => ((e.pressNumber number).toOption).getD e
  | .clearKeys => e.clearKeys
  | .addBreakpoint address => e.addBreakpoint address
  | .removeBreakpoint address => e.removeBreakpoint address
  | .clearBreakpoints => e.clearBreakpoints
  | .setTracing on => e.setTracing on
  | .clearTrace => e.clearTrace
  | .reset => e.reset

/-- The emulator that calls leave, one after the other. -/
def afterAll (e : Emulator ρ) (calls : List Call) : Emulator ρ := calls.foldl after e

/-- The number of instructions that a call executes. -/
def executedBy (e : Emulator ρ) : Call → Nat
  | .step => if e.step.1 = .executed then 1 else 0
  | .run bound => e.runLength ((bound.map Int.toNat).getD defaultBound)
  | _ => 0

/-- The number of instructions that calls execute, one after the other. -/
def executedByAll (e : Emulator ρ) : List Call → Nat
  | [] => 0
  | c :: rest => e.executedBy c + (e.after c).executedByAll rest

theorem afterAll_append (e : Emulator ρ) (first second : List Call) :
    e.afterAll (first ++ second) = (e.afterAll first).afterAll second :=
  List.foldl_append

omit [RandomSource ρ] in
theorem pressNumber_key (e : Emulator ρ) (key : Nibble) :
    e.pressNumber (key : Nat) = .ok (e.pressKey key) := by
  have hkey : keyOf (key : Nat) = .ok key := dif_pos (by omega)
  rw [pressNumber, hkey]
  rfl

omit [RandomSource ρ] in
theorem pressNumber_of_noKey (e : Emulator ρ) {number : Int}
    (hnone : ¬ (0 ≤ number ∧ number ≤ 15)) :
    e.pressNumber number = .error ⟨number⟩ := by
  have hkey : keyOf number = .error ⟨number⟩ := dif_neg (by omega)
  rw [pressNumber, hkey]
  rfl

/-- To press the number of a key is to press the key. -/
theorem after_pressKey (e : Emulator ρ) (key : Nibble) :
    e.after (.pressKey key) = e.pressKey key := by
  simp only [after, pressNumber_key]
  rfl

/-- A number that names no key presses none. -/
theorem after_pressKey_of_noKey (e : Emulator ρ) {number : Int}
    (hnone : ¬ (0 ≤ number ∧ number ≤ 15)) : e.after (.pressKey number) = e := by
  simp only [after, pressNumber_of_noKey e hnone]
  rfl

/-- Apart from the registers `V`, the wait for a key, timers, keys and journal, two emulators are
the same: neither has executed what the other has not. -/
structure Unmoved (e other : Emulator ρ) : Prop where
  config : other.config = e.config
  memory : other.machine.memory = e.machine.memory
  screen : other.machine.screen = e.machine.screen
  random : other.machine.random = e.machine.random
  index : other.machine.registers.index = e.machine.registers.index
  pc : other.pc = e.pc
  stack : other.machine.registers.stack = e.machine.registers.stack
  stackLimit : other.machine.registers.stackLimit = e.machine.registers.stackLimit
  breakpoints : other.breakpoints = e.breakpoints
  resumeFrom : other.resumeFrom = e.resumeFrom
  tracing : other.tracing = e.tracing
  trace : other.trace = e.trace

namespace Unmoved

omit [RandomSource ρ] in
theorem refl (e : Emulator ρ) : e.Unmoved e where
  config := rfl
  memory := rfl
  screen := rfl
  random := rfl
  index := rfl
  pc := rfl
  stack := rfl
  stackLimit := rfl
  breakpoints := rfl
  resumeFrom := rfl
  tracing := rfl
  trace := rfl

omit [RandomSource ρ] in
theorem trans {first second third : Emulator ρ} (h : first.Unmoved second)
    (h' : second.Unmoved third) : first.Unmoved third where
  config := h'.config.trans h.config
  memory := h'.memory.trans h.memory
  screen := h'.screen.trans h.screen
  random := h'.random.trans h.random
  index := h'.index.trans h.index
  pc := h'.pc.trans h.pc
  stack := h'.stack.trans h.stack
  stackLimit := h'.stackLimit.trans h.stackLimit
  breakpoints := h'.breakpoints.trans h.breakpoints
  resumeFrom := h'.resumeFrom.trans h.resumeFrom
  tracing := h'.tracing.trans h.tracing
  trace := h'.trace.trans h.trace

omit [RandomSource ρ] in
theorem pressKey (e : Emulator ρ) (key : Nibble) : e.Unmoved (e.pressKey key) := by
  unfold Emulator.pressKey Machine.pressKey
  cases e.machine.registers.keyWait with
  | none => exact { Unmoved.refl e with }
  | some x => exact { Unmoved.refl e with }

/-- What may happen between the steps of a program does not move it. -/
theorem after (e : Emulator ρ) {c : Call} (hc : c.BetweenSteps) : e.Unmoved (e.after c) := by
  cases c with
  | tick | clearKeys => exact { Unmoved.refl e with }
  | pressKey number =>
    simp only [Emulator.after, pressNumber]
    cases keyOf number with
    | error _ => exact refl e
    | ok key => exact Unmoved.pressKey e key
  | load _ _ | step | run _ | addBreakpoint _ | removeBreakpoint _ | clearBreakpoints
  | setTracing _ | clearTrace | reset => exact absurd hc id

theorem afterAll (e : Emulator ρ) {calls : List Call} (hcalls : ∀ c ∈ calls, c.BetweenSteps) :
    e.Unmoved (e.afterAll calls) := by
  induction calls generalizing e with
  | nil => exact refl e
  | cons c rest ih =>
    have hrest := ih (e.after c) fun d hd => hcalls d (List.mem_cons_of_mem c hd)
    exact (after e (hcalls c List.mem_cons_self)).trans hrest

end Unmoved

/-- A step keeps the registers in range. -/
theorem registers_inRange_step {e : Emulator ρ} (h : e.machine.registers.InRange) :
    e.step.2.machine.registers.InRange := by
  rcases e.machine_step_cases with hsame | hexecute
  · rw [hsame]
    exact h
  · exact Machine.execute_inRange h hexecute

/-- A step keeps the limit on the call stack. -/
theorem stackLimit_step (e : Emulator ρ) :
    e.step.2.machine.registers.stackLimit = e.machine.registers.stackLimit := by
  rcases e.machine_step_cases with hsame | hexecute
  · rw [hsame]
  · exact Machine.stackLimit_of_execute hexecute

/-- The registers are in range, and the call stack has the limit of the configuration. -/
structure InRange (e : Emulator ρ) : Prop where
  registers : e.machine.registers.InRange
  limit : e.machine.registers.stackLimit = e.config.stackLimit

omit [RandomSource ρ] in
theorem inRange_initial (config : Config) (random : ρ) : (initial config random).InRange where
  registers := Registers.inRange_initial config.stackLimit
  limit := rfl

namespace InRange

variable {e : Emulator ρ}

omit [RandomSource ρ] in
theorem of_eq (h : e.InRange) {other : Emulator ρ}
    (hregisters : other.machine.registers = e.machine.registers)
    (hconfig : other.config = e.config) : other.InRange where
  registers := hregisters ▸ h.registers
  limit := by rw [hregisters, hconfig, h.limit]

theorem step (h : e.InRange) : e.step.2.InRange where
  registers := registers_inRange_step h.registers
  limit := by
    rw [stackLimit_step, h.limit, step_eq]

/-- A run keeps what every step of it keeps. -/
theorem run (h : e.InRange) (bound : Nat) : (e.run bound).2.InRange := by
  refine run_keep (fun _ hrange => hrange.step) ?_ bound h
  intro _ _ hmachine hconfig hrange
  exact hrange.of_eq (congrArg Machine.registers hmachine) hconfig

omit [RandomSource ρ] in
/-- A ROM in range moves the program counter to an address in range, and one that is too large
changes nothing. -/
theorem load (h : e.InRange) (rom : List UInt8) {base : Int} (hbase : 0 ≤ base ∧ base ≤ 0xFFF) :
    (((e.load rom base).toOption).getD e).InRange := by
  unfold Emulator.load Machine.load
  by_cases hroom : Machine.room base < rom.length
  · rw [if_pos hroom]
    exact h
  · rw [if_neg hroom]
    exact ⟨h.registers.withPc hbase, h.limit⟩

omit [RandomSource ρ] in
theorem pressKey (h : e.InRange) (key : Nibble) : (e.pressKey key).InRange := by
  unfold Emulator.pressKey Machine.pressKey
  cases hwait : e.machine.registers.keyWait with
  | none => exact h.of_eq rfl rfl
  | some x => exact ⟨(h.registers.set x (by omega)).withKeyWait none, h.limit⟩

omit [RandomSource ρ] in
theorem pressNumber (h : e.InRange) (number : Int) :
    (((e.pressNumber number).toOption).getD e).InRange := by
  unfold Emulator.pressNumber
  cases keyOf number with
  | error _ => exact h
  | ok key => exact h.pressKey key

theorem reset (h : e.InRange) : e.reset.InRange where
  registers := Registers.inRange_initial _
  limit := h.limit

/-- Every call keeps the ranges. -/
theorem after (h : e.InRange) {c : Call} (hbase : c.BaseInRange) : (e.after c).InRange := by
  cases c with
  | load rom base => exact h.load rom hbase
  | step => exact h.step
  | run bound => exact h.run _
  | pressKey number => exact h.pressNumber number
  | reset => exact h.reset
  | tick | clearKeys | addBreakpoint _ | removeBreakpoint _ | clearBreakpoints | setTracing _
  | clearTrace => exact h.of_eq rfl rfl

theorem afterAll (h : e.InRange) {calls : List Call} (hbases : ∀ c ∈ calls, c.BaseInRange) :
    (e.afterAll calls).InRange := by
  induction calls generalizing e with
  | nil => exact h
  | cons c rest ih =>
    have hafter := h.after (hbases c List.mem_cons_self)
    exact ih hafter fun d hd => hbases d (List.mem_cons_of_mem c hd)

end InRange

/-- Every part of the emulator holds values of its width, and a step can fail at the call stack
only. -/
structure WithinBounds (e : Emulator ρ) : Prop where
  cells : e.machine.memory.cells.toList.length = 4096
  bytes : ∀ b ∈ e.machine.memory.cells.toList, b.toNat ≤ 0xFF
  registers : e.machine.registers.v.toList.length = 16
  values : ∀ value ∈ e.machine.registers.v.toList, 0 ≤ value ∧ value ≤ 0xFF
  index : 0 ≤ e.machine.registers.index ∧ e.machine.registers.index ≤ 0xFFFF
  pc : 0 ≤ e.pc ∧ e.pc ≤ 0xFFF
  stack : ∀ address ∈ e.machine.registers.stack, 0 ≤ address ∧ address ≤ 0xFFF
  /-- a limit below zero allows no call, just as zero does -/
  depth : ∀ limit, e.config.stackLimit = some limit →
    (e.machine.registers.stack.length : Int) ≤ max 0 limit
  timers : e.machine.timers.delay.toNat ≤ 0xFF ∧ e.machine.timers.sound.toNat ≤ 0xFF
  keyWait : ∀ x, e.machine.registers.keyWait = some x → x.val ≤ 0xF
  breakpoints : ∀ address ∈ e.breakpoints.addresses, address.val ≤ 0xFFF
  pixels : e.machine.screen.pixels.toList.length = 64 * 32
  faults : ∀ fault, e.step.1 = .failed fault →
    (∃ address, fault = .stackUnderflow address) ∨
      ∃ limit address, fault = .stackOverflow limit address

/-- Of a machine in range a step can only fail at the call stack. -/
theorem fault_of_step {e : Emulator ρ} (h : e.machine.registers.InRange) {fault : Fault}
    (hstep : e.step.1 = .failed fault) :
    (∃ address, fault = .stackUnderflow address) ∨
      ∃ limit address, fault = .stackOverflow limit address := by
  obtain ⟨-, hexecute⟩ := step_failed_iff.1 hstep
  rcases Machine.fault_of_execute h hexecute with ⟨-, -, rfl⟩ | ⟨_, limit, -, -, -, rfl⟩
  · exact .inl ⟨_, rfl⟩
  · exact .inr ⟨limit, _, rfl⟩

/-- After any calls in any order, refused and failed ones included, every part of the emulator is
within its bounds, whatever the settings and the random bytes. -/
theorem withinBounds_afterAll (config : Config) (random : ρ) (calls : List Call)
    (hbases : ∀ c ∈ calls, c.BaseInRange) :
    ((initial config random).afterAll calls).WithinBounds := by
  have hrange : ((initial config random).afterAll calls).InRange :=
    (inRange_initial config random).afterAll hbases
  generalize (initial config random).afterAll calls = e at hrange
  exact
    { cells := by simp
      bytes := fun b _ => Nat.le_of_lt_succ b.toNat_lt
      registers := by simp
      values := by
        intro value hmem
        obtain ⟨i, hi, rfl⟩ := List.mem_iff_getElem.1 hmem
        exact hrange.registers.v ⟨i, by simpa using hi⟩
      index := hrange.registers.index
      pc := hrange.registers.pc
      stack := hrange.registers.stack
      depth := by
        intro limit hlimit
        exact hrange.registers.depth limit (hrange.limit.trans hlimit)
      timers := ⟨Nat.le_of_lt_succ (UInt8.toNat_lt _), Nat.le_of_lt_succ (UInt8.toNat_lt _)⟩
      keyWait := fun x _ => Nat.le_of_lt_succ x.isLt
      breakpoints := fun address _ => Nat.le_of_lt_succ address.isLt
      pixels := by simp
      faults := fun _ hstep => fault_of_step hrange.registers hstep }

/-- A program that calls itself, started again after calls that are refused. The last step fails at
the limit on the call stack. -/
def recursionCalls : List Call :=
  [.load [0xF1] 0xFFF, .step, .pressKey 16, .load [1, 2] 0xFFF, .reset,
    .load [0x22, 0x00] 0x200, .setTracing true, .run (some 2), .step]

theorem withinBounds_afterAll_recursion :
    (∀ c ∈ recursionCalls, c.BaseInRange) ∧
      ((initial { stackLimit := some 2 } (Tape.ofList [7])).afterAll
        recursionCalls).WithinBounds ∧
      ((initial { stackLimit := some 2 } (Tape.ofList [7])).afterAll
        recursionCalls).machine.registers.stack = [0x200, 0x200] ∧
      ((initial { stackLimit := some 2 } (Tape.ofList [7])).afterAll
        recursionCalls).step.1 = .failed (.stackOverflow 2 0x200) :=
  ⟨by decide, withinBounds_afterAll { stackLimit := some 2 } (Tape.ofList [7]) recursionCalls
    (by decide), by decide +kernel, by decide +kernel⟩

end Emulator

end Chip8
