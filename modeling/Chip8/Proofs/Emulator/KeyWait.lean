/-
# Waiting for a key

While a register waits for a key, no instruction is executed: steps and runs leave the machine as it
is, time passes for the timers only, and of the keys that are down only the clearing of all keys
takes any away. The press of a key ends the wait, whatever has been called before. It stores the
number of the key in the register that waits, and the next step executes the instruction behind the
wait. A number that names no key is refused, and the register waits on.
-/

import Chip8.Proofs.Emulator.Iteration
import Chip8.Proofs.Emulator.Watching

namespace Chip8

/-- The call presses no key, and does not load, empty or reset anything. -/
def Call.KeepsWait : Call → Prop
  | .step | .run _ | .tick | .clearKeys | .addBreakpoint _ | .removeBreakpoint _ | .clearBreakpoints
  | .setTracing _ => True
  | .pressKey number => ¬ (0 ≤ number ∧ number ≤ 15)
  | .load .. | .clearTrace | .reset => False

instance : DecidablePred Call.KeepsWait
  | .step | .run _ | .tick | .clearKeys | .addBreakpoint _ | .removeBreakpoint _ | .clearBreakpoints
  | .setTracing _ => .isTrue trivial
  | .pressKey number => inferInstanceAs (Decidable (¬ (0 ≤ number ∧ number ≤ 15)))
  | .load .. | .clearTrace | .reset => .isFalse id

namespace Emulator

variable {ρ : Type} [RandomSource ρ]

/-- Calls have executed nothing: only the ticks among them show in the timers, and only the clearing
of keys in the keys. -/
structure Frozen (e : Emulator ρ) (calls : List Call) (later : Emulator ρ) : Prop where
  config : later.config = e.config
  /-- with the program counter, the call stack and the register that waits -/
  registers : later.machine.registers = e.machine.registers
  memory : later.machine.memory = e.machine.memory
  screen : later.machine.screen = e.machine.screen
  random : later.machine.random = e.machine.random
  trace : later.trace = e.trace
  delay : later.machine.timers.delay.toNat =
    e.machine.timers.delay.toNat - calls.count .tick
  sound : later.machine.timers.sound.toNat =
    e.machine.timers.sound.toNat - calls.count .tick
  keypad : later.machine.keypad =
    if .clearKeys ∈ calls then Keypad.initial else e.machine.keypad

/-- The press of a key has ended the wait of a register, and has done nothing else. -/
structure Released (e : Emulator ρ) (x : Reg) (key : Nibble) (later : Emulator ρ) : Prop where
  value : later.machine.registers.get x = key
  others : ∀ y, y ≠ x → later.machine.registers.get y = e.machine.registers.get y
  keyWait : later.machine.registers.keyWait = none
  keys : ∀ other : Nibble, later.machine.keypad.isPressed other = true ↔
    other = key ∨ e.machine.keypad.isPressed other = true
  rest : later = { e with
    machine := { e.machine with
      registers := { e.machine.registers with v := later.machine.registers.v, keyWait := none }
      keypad := later.machine.keypad }
    journal := e.journal.push (.keyReleased key x) }
  /-- the next step executes the instruction that the program counter has stood at -/
  executed : ∀ machine, later.machine.execute e.machine.current = .ok machine →
    later.step.1 = .executed ∧ later.step.2.machine = machine
  failed : ∀ fault, later.machine.execute e.machine.current = .error fault →
    later.step.1 = .failed fault

/-- A register waits for a key, and stands still under calls until a key is pressed. -/
structure StandsStill (e : Emulator ρ) (x : Reg) (calls : List Call) : Prop where
  frozen : e.Frozen calls (e.afterAll calls)
  step : (e.afterAll calls).answer .step = .stepped .waiting
  /-- a run of no steps reaches its bound, and a breakpoint comes before the wait -/
  run : ∀ bound, (e.afterAll calls).answer (.run bound) = .stopped
    (if bound.any (· ≤ 0) then .timeout
      else if Breaks (e.afterAll calls).resumeFrom (e.afterAll calls) then .breakpoint
      else .waitKey)
  press : ∀ key : Nibble, (e.afterAll calls).answer (.pressKey key) = .done ∧
    Released (e.afterAll calls) x key ((e.afterAll calls).after (.pressKey key))
  refused : ∀ number, ¬ (0 ≤ number ∧ number ≤ 15) →
    (e.afterAll calls).answer (.pressKey number) = .noKey ⟨number⟩ ∧
      (e.afterAll calls).after (.pressKey number) = e.afterAll calls

namespace Frozen

variable {e : Emulator ρ} {calls : List Call}

omit [RandomSource ρ] in
theorem refl (e : Emulator ρ) : e.Frozen [] e where
  config := rfl
  registers := rfl
  memory := rfl
  screen := rfl
  random := rfl
  trace := rfl
  delay := rfl
  sound := rfl
  keypad := rfl

omit [RandomSource ρ] in
theorem trans {later last : Emulator ρ} {more : List Call} (h : e.Frozen calls later)
    (h' : later.Frozen more last) : e.Frozen (calls ++ more) last where
  config := h'.config.trans h.config
  registers := h'.registers.trans h.registers
  memory := h'.memory.trans h.memory
  screen := h'.screen.trans h.screen
  random := h'.random.trans h.random
  trace := h'.trace.trans h.trace
  delay := by rw [h'.delay, h.delay, List.count_append, Nat.sub_sub]
  sound := by rw [h'.sound, h.sound, List.count_append, Nat.sub_sub]
  keypad := by
    rw [h'.keypad, h.keypad]
    by_cases hmore : .clearKeys ∈ more
    · rw [if_pos hmore, if_pos (List.mem_append_right calls hmore)]
    · simp only [List.mem_append, hmore, or_false, ↓reduceIte]

omit [RandomSource ρ] in
/-- A call that leaves machine and trace alone. -/
theorem of_machine_eq {c : Call} {later : Emulator ρ} (hmachine : later.machine = e.machine)
    (hconfig : later.config = e.config) (htrace : later.trace = e.trace) (htick : c ≠ .tick)
    (hclear : c ≠ .clearKeys) : e.Frozen [c] later where
  config := hconfig
  registers := by rw [hmachine]
  memory := by rw [hmachine]
  screen := by rw [hmachine]
  random := by rw [hmachine]
  trace := htrace
  delay := by rw [hmachine, List.count_singleton, beq_false_of_ne htick]; rfl
  sound := by rw [hmachine, List.count_singleton, beq_false_of_ne htick]; rfl
  keypad := by rw [hmachine, if_neg (mt List.mem_singleton.1 hclear.symm)]

omit [RandomSource ρ] in
theorem tick (e : Emulator ρ) : e.Frozen [.tick] e.tick :=
  { refl e with
    delay := Timers.toNat_countDown _
    sound := Timers.toNat_countDown _
    keypad := rfl }

omit [RandomSource ρ] in
theorem clearKeys (e : Emulator ρ) : e.Frozen [.clearKeys] e.clearKeys :=
  { refl e with keypad := rfl }

end Frozen

section Waiting

variable {e : Emulator ρ} {x : Reg} (hwait : e.machine.registers.keyWait = some x)
include hwait

omit [RandomSource ρ] in
theorem waiting_of_keyWait : e.machine.waiting = true := by
  rw [Machine.waiting, hwait]
  rfl

/-- A run that makes any step at all ends in front of the first one. -/
theorem run_of_keyWait (bound : Nat) :
    e.run bound = if bound = 0 then (.timeout, e.started)
      else if Breaks e.resumeFrom e then (.breakpoint, e.started.noteBreakpoint)
      else (.waitKey, e.started) := by
  cases bound with
  | zero => rfl
  | succ bound =>
    rw [if_neg (Nat.succ_ne_zero bound)]
    by_cases hbreaks : Breaks e.resumeFrom e
    · rw [if_pos hbreaks]
      exact (runFrom_of_breaks (e := e.started) hbreaks bound).1
    · rw [if_neg hbreaks]
      exact (runFrom_of_waiting (e := e.started) hbreaks (waiting_of_keyWait hwait) bound).1

theorem answer_run_of_keyWait (bound : Option Int) :
    e.answer (.run bound) = .stopped
      (if bound.any (· ≤ 0) then .timeout
        else if Breaks e.resumeFrom e then .breakpoint else .waitKey) := by
  have hbound : (bound.map Int.toNat).getD defaultBound = 0 ↔ bound.any (· ≤ 0) = true := by
    cases bound with
    | none => simp [defaultBound]
    | some number => simp [Int.toNat_eq_zero]
  simp only [answer, run_of_keyWait hwait, hbound]
  split
  · rfl
  · split <;> rfl

/-- What one call leaves. -/
theorem frozen_after {c : Call} (hc : c.KeepsWait) : e.Frozen [c] (e.after c) := by
  cases c with
  | step =>
    have hstep := step_of_waiting (waiting_of_keyWait hwait)
    have hafter : e.after .step = e := congrArg Prod.snd hstep
    rw [hafter]
    exact Frozen.of_machine_eq rfl rfl rfl Call.noConfusion Call.noConfusion
  | run bound =>
    simp only [after, run_of_keyWait hwait]
    split
    · exact Frozen.of_machine_eq rfl rfl rfl Call.noConfusion Call.noConfusion
    · split <;> exact Frozen.of_machine_eq rfl rfl rfl Call.noConfusion Call.noConfusion
  | pressKey number =>
    rw [after_pressKey_of_noKey e hc]
    exact Frozen.of_machine_eq rfl rfl rfl Call.noConfusion Call.noConfusion
  | tick => exact Frozen.tick e
  | clearKeys => exact Frozen.clearKeys e
  | addBreakpoint _ | removeBreakpoint _ | clearBreakpoints | setTracing _ =>
    exact Frozen.of_machine_eq rfl rfl rfl Call.noConfusion Call.noConfusion
  | load _ _ | clearTrace | reset => exact absurd hc id

/-- The press of a key ends the wait. -/
theorem released_pressKey (key : Nibble) : e.Released x key (e.pressKey key) := by
  have hmachine : (e.pressKey key).machine = { e.machine with
      registers := { e.machine.registers.set x key with keyWait := none }
      keypad := e.machine.keypad.press key } := by
    simp only [pressKey, Machine.pressKey, hwait]
    rfl
  have hfree : (e.pressKey key).machine.waiting = false := by
    rw [hmachine]
    rfl
  have hcurrent : (e.pressKey key).machine.current = e.machine.current := by
    rw [hmachine]
    rfl
  have hget : ∀ y, (e.pressKey key).machine.registers.get y =
      if x = y then (key : Int) else e.machine.registers.get y := by
    intro y
    rw [hmachine]
    exact Registers.get_set e.machine.registers x y key
  exact
    { value := by rw [hget, if_pos rfl]
      others := fun y hy => by rw [hget, if_neg (Ne.symm hy)]
      keyWait := by rw [hmachine]
      keys := fun other => by rw [hmachine]; exact e.machine.keypad.isPressed_press key other
      rest := by
        simp only [pressKey, Machine.pressKey, hwait]
        rfl
      executed := by
        intro machine hexecute
        rw [← hcurrent] at hexecute
        rw [step_of_ok hfree hexecute]
        exact ⟨rfl, rfl⟩
      failed := by
        intro fault hexecute
        rw [← hcurrent] at hexecute
        exact step_failed_iff.2 ⟨hfree, hexecute⟩ }

end Waiting

theorem frozen_afterAll {e : Emulator ρ} {x : Reg} (hwait : e.machine.registers.keyWait = some x)
    {calls : List Call} (hcalls : ∀ c ∈ calls, c.KeepsWait) :
    e.Frozen calls (e.afterAll calls) := by
  induction calls generalizing e with
  | nil => exact Frozen.refl e
  | cons c rest ih =>
    -- the register still waits behind the first call, so the next one finds the same state
    have hfirst := frozen_after hwait (hcalls c List.mem_cons_self)
    have hstill : (e.after c).machine.registers.keyWait = some x := by rw [hfirst.registers, hwait]
    exact hfirst.trans (ih hstill fun d hd => hcalls d (List.mem_cons_of_mem c hd))

/-- A wait for a key freezes the machine under any calls that press no key, and the first key that
is pressed ends it. -/
theorem standsStill_of_keyWait {e : Emulator ρ} {x : Reg}
    (hwait : e.machine.registers.keyWait = some x) {calls : List Call}
    (hcalls : ∀ c ∈ calls, c.KeepsWait) : e.StandsStill x calls := by
  have hfrozen := frozen_afterAll hwait hcalls
  have hstill : (e.afterAll calls).machine.registers.keyWait = some x := by
    rw [hfrozen.registers, hwait]
  exact
    { frozen := hfrozen
      step := by rw [answer, step_of_waiting (waiting_of_keyWait hstill)]
      run := answer_run_of_keyWait hstill
      press := by
        intro key
        refine ⟨?_, ?_⟩
        · rw [answer, pressNumber_key]
        · rw [after_pressKey]
          exact released_pressKey hstill key
      refused := by
        intro number hnone
        refine ⟨?_, after_pressKey_of_noKey _ hnone⟩
        rw [answer, pressNumber_of_noKey _ hnone] }

/-- A program that starts the timer and waits for a key in front of a breakpoint, with one key down
and tracing on. -/
def waitingTraced : Emulator Tape :=
  (initial { trace := true } (Tape.ofList [7])).afterAll
    [.load [0x60, 0x05, 0xF0, 0x15, 0xF3, 0x0A, 0x73, 0x01] 0x200, .pressKey 9,
      .addBreakpoint 0x206, .run (some 10)]

/-- Calls of every kind that keep a wait, with a key that does not exist. -/
def waitingCalls : List Call :=
  [.step, .tick, .run (some 4), .run (some 4), .pressKey 16, .run (some 0), .setTracing false,
    .removeBreakpoint 0x206, .clearKeys, .tick, .run none, .clearBreakpoints]

theorem standsStill_waitingTraced :
    waitingTraced.machine.registers.keyWait = some 3 ∧ (∀ c ∈ waitingCalls, c.KeepsWait) ∧
      waitingTraced.StandsStill 3 waitingCalls :=
  have hwait : waitingTraced.machine.registers.keyWait = some 3 := by decide +kernel
  have hcalls : ∀ c ∈ waitingCalls, c.KeepsWait := by decide
  ⟨hwait, hcalls, standsStill_of_keyWait hwait hcalls⟩

end Emulator

end Chip8
