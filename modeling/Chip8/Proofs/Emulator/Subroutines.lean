/-
# Subroutines return home

A subroutine may call others, call itself, jump about, change its own code and wait for keys.
Whatever it does, the address that its call left on the stack stays where it is until the stack is
as short as before the call. The first step that makes it so short is the return of the subroutine,
and it goes on behind the call.

The return address and what lies below it are a suffix of the call stack, since the stack is listed
from the top. One step keeps this suffix or takes exactly its first address off.
-/

import Chip8.Proofs.Emulator.Calls
import Chip8.Proofs.Machine.CallStack

namespace Chip8

namespace Emulator

variable {ρ : Type} [RandomSource ρ]

/-- The return addresses on the call stack, the most recent first. -/
def callStack (e : Emulator ρ) : List Int := e.machine.registers.stack

/-- A step inside a subroutine stays inside it or is its return. -/
theorem inside_or_back_step {e : Emulator ρ} {address : Int} {home : List Int}
    (hinside : (address :: home) <:+ e.callStack) :
    (address :: home) <:+ e.step.2.callStack ∨
      (e.step.2.callStack = home ∧ e.step.2.pc = followingAddress address) := by
  simp only [callStack, pc] at hinside ⊢
  rcases e.machine_step_cases with hstays | hexecute
  · rw [hstays]
    exact .inl hinside
  · rcases Machine.stack_of_execute hexecute with
      ⟨-, -, hpushed⟩ | ⟨top, -, hpopped, hpc⟩ | hsame
    · rw [hpushed]
      exact .inl (hinside.trans (List.suffix_cons _ _))
    · rw [hpopped] at hinside
      rcases List.suffix_cons_iff.1 hinside with hreturn | hnested
      · obtain ⟨rfl, hhome⟩ := List.cons.inj hreturn
        exact .inr ⟨hhome.symm, hpc⟩
      · exact .inl hnested
    · rw [hsame]
      exact .inl hinside

/-- So does whatever may happen between steps. -/
theorem inside_or_back {e : Emulator ρ} {address : Int} {home : List Int}
    (hinside : (address :: home) <:+ e.callStack) {c : Call} (hc : c = .step ∨ c.BetweenSteps) :
    (address :: home) <:+ (e.after c).callStack ∨
      ((e.after c).callStack = home ∧ (e.after c).pc = followingAddress address) := by
  rcases hc with rfl | hbetween
  · exact inside_or_back_step hinside
  · have hstack : (e.after c).callStack = e.callStack := (Unmoved.after e hbetween).stack
    rw [hstack]
    exact .inl hinside

/-- The way of a subroutine that was called at `address`, on top of the addresses `home`: inside it
the return address stands right above them, and when it is back they are all that is left. -/
structure ReturnsHome (home : List Int) (address : Int) (e : Emulator ρ) (calls : List Call) :
    Prop where
  /-- as long as the stack has not come back to its old depth, the address and `home` are its
  bottom -/
  inside : ∀ k, (∀ j ≤ k, (e.afterAll (calls.take j)).callStack.length ≠ home.length) →
    (address :: home) <:+ (e.afterAll (calls.take k)).callStack
  /-- when it first has, the stack is `home` and the program goes on behind the call -/
  back : ∀ k, (∀ j < k, (e.afterAll (calls.take j)).callStack.length ≠ home.length) →
    (e.afterAll (calls.take k)).callStack.length = home.length →
    (e.afterAll (calls.take k)).callStack = home ∧
      (e.afterAll (calls.take k)).pc = (address + 2) % 4096

section Run

variable {e : Emulator ρ} {address : Int} {home : List Int} {calls : List Call}
  (hstart : (address :: home) <:+ e.callStack) (hcalls : ∀ c ∈ calls, c = .step ∨ c.BetweenSteps)

include hcalls in
/-- One more call keeps a run inside its subroutine or ends it. -/
theorem inside_or_back_take {k : Nat}
    (hinside : (address :: home) <:+ (e.afterAll (calls.take k)).callStack) :
    (address :: home) <:+ (e.afterAll (calls.take (k + 1))).callStack ∨
      ((e.afterAll (calls.take (k + 1))).callStack = home ∧
        (e.afterAll (calls.take (k + 1))).pc = followingAddress address) := by
  rw [List.take_add_one]
  cases hcall : calls[k]? with
  | none =>
    rw [Option.toList_none, List.append_nil]
    exact .inl hinside
  | some c =>
    rw [Option.toList_some, afterAll_append]
    exact inside_or_back hinside (hcalls c (List.mem_of_getElem? hcall))

include hstart hcalls in
theorem inside_of_deeper {k : Nat}
    (hdeeper : ∀ j ≤ k, (e.afterAll (calls.take j)).callStack.length ≠ home.length) :
    (address :: home) <:+ (e.afterAll (calls.take k)).callStack := by
  induction k with
  | zero => exact hstart
  | succ k ih =>
    have hinside := ih fun j hj => hdeeper j (Nat.le_succ_of_le hj)
    rcases inside_or_back_take hcalls hinside with hnext | ⟨hback, -⟩
    · exact hnext
    · exact absurd (congrArg List.length hback) (hdeeper (k + 1) (Nat.le_refl _))

include hstart hcalls in
/-- A run that starts inside a subroutine returns home. -/
theorem returnsHome_of_inside : ReturnsHome home address e calls where
  inside := fun _ => inside_of_deeper hstart hcalls
  back := by
    intro k hdeeper hdepth
    have hshort : ¬ (address :: home) <:+ (e.afterAll (calls.take k)).callStack := by
      intro hsuffix
      have hle := hsuffix.length_le
      rw [List.length_cons, hdepth] at hle
      omega
    cases k with
    | zero => exact absurd hstart hshort
    | succ k =>
      have hinside := inside_of_deeper hstart hcalls fun j hj => hdeeper j (Nat.lt_succ_of_le hj)
      rcases inside_or_back_take hcalls hinside with hnext | hback
      · exact absurd hnext hshort
      · exact hback

end Run

/-- A call with room on the call stack is executed, and its address stands on top then. -/
theorem step_of_call {e : Emulator ρ} {nnn : Address} (hcall : e.machine.current = .call nnn)
    (hroom : ∀ limit, e.machine.registers.stackLimit = some limit →
      (e.callStack.length : Int) < limit)
    (hfree : e.machine.waiting = false) :
    e.step.1 = .executed ∧ e.step.2.callStack = e.pc :: e.callStack := by
  have hexecute := Machine.execute_call nnn hroom
  rw [← hcall] at hexecute
  rw [step_of_ok hfree hexecute]
  exact ⟨rfl, rfl⟩

/-- A call with room on the call stack is executed, once no register waits for a key any more, and
from there every run of steps returns home, whatever happens between the steps. -/
theorem returnsHome_of_call (e : Emulator ρ) (nnn : Address) (waits calls : List Call)
    (hcall : e.machine.current = .call nnn)
    (hroom : ∀ limit, e.machine.registers.stackLimit = some limit →
      (e.callStack.length : Int) < limit)
    (hwaits : ∀ c ∈ waits, c.BetweenSteps) (hfree : (e.afterAll waits).machine.waiting = false)
    (hcalls : ∀ c ∈ calls, c = .step ∨ c.BetweenSteps) :
    (e.afterAll waits).step.1 = .executed ∧
      ReturnsHome e.callStack e.pc (e.afterAll waits).step.2 calls := by
  have hsame : e.Unmoved (e.afterAll waits) := Unmoved.afterAll e hwaits
  have hstack : (e.afterAll waits).callStack = e.callStack := hsame.stack
  have hcurrent : (e.afterAll waits).machine.current = .call nnn := by
    rw [← hcall, Machine.current, Machine.current, hsame.memory]
    exact congrArg e.machine.memory.instructionAt hsame.pc
  obtain ⟨hexecuted, hpushed⟩ :=
    step_of_call hcurrent (by rwa [hsame.stackLimit, hstack]) hfree
  rw [hsame.pc, hstack] at hpushed
  have hinside : (e.pc :: e.callStack) <:+ (e.afterAll waits).step.2.callStack :=
    ⟨[], hpushed.symm⟩
  exact ⟨hexecuted, returnsHome_of_inside hinside hcalls⟩

/-- A subroutine that calls another one. It is called while a register still waits for a key, on a
stack that holds an address already. -/
def nestedCalls : Emulator Tape :=
  let e := initial { stackLimit := some 3 } (Tape.ofList [7])
  { e with machine := { e.machine with
      registers := { e.machine.registers with stack := [0x123], keyWait := some (fourBits 3) }
      memory := e.machine.memory.load 0x200
        [0x22, 0x04, 0x00, 0x00, 0x22, 0x08, 0x00, 0xEE, 0x00, 0xEE] } }

/-- The key that ends the wait is pressed. -/
def nestedWaits : List Call := [.tick, .pressKey 5]

/-- The inner call, its return and the return of the outer one, and one step more. -/
def nestedRun : List Call := [.step, .tick, .step, .pressKey 16, .step, .step]

theorem returnsHome_of_call_nested :
    (nestedCalls.machine.current = .call 0x204 ∧
        (∀ limit, nestedCalls.machine.registers.stackLimit = some limit →
          (nestedCalls.callStack.length : Int) < limit) ∧
        (∀ c ∈ nestedWaits, c.BetweenSteps) ∧
        (nestedCalls.afterAll nestedWaits).machine.waiting = false ∧
        ∀ c ∈ nestedRun, c = .step ∨ c.BetweenSteps) ∧
      ReturnsHome [0x123] 0x200 (nestedCalls.afterAll nestedWaits).step.2 nestedRun ∧
      ((nestedCalls.afterAll nestedWaits).step.2.afterAll (nestedRun.take 5)).callStack = [0x123] ∧
      ((nestedCalls.afterAll nestedWaits).step.2.afterAll (nestedRun.take 5)).pc = 0x202 := by
  have hcall : nestedCalls.machine.current = .call 0x204 := by decide +kernel
  have hroom : ∀ limit, nestedCalls.machine.registers.stackLimit = some limit →
      (nestedCalls.callStack.length : Int) < limit := by
    intro limit hlimit
    obtain rfl : 3 = limit := Option.some.inj hlimit
    decide
  have hwaits : ∀ c ∈ nestedWaits, c.BetweenSteps := by decide
  have hfree : (nestedCalls.afterAll nestedWaits).machine.waiting = false := by decide +kernel
  have hcalls : ∀ c ∈ nestedRun, c = .step ∨ c.BetweenSteps := by decide
  have hhome := (returnsHome_of_call nestedCalls 0x204 nestedWaits nestedRun hcall hroom hwaits
    hfree hcalls).2
  exact ⟨⟨hcall, hroom, hwaits, hfree, hcalls⟩, hhome, by decide +kernel, by decide +kernel⟩

end Emulator

end Chip8
