/-
# A step of the emulator by the reference

Put together, decoding by the instruction table, executing the instruction and tracing the attempt
have exactly the effect of the reference on the word at the program counter.
-/

import Chip8.Proofs.Emulator.Steps
import Chip8.Proofs.Machine.Refinement

namespace Chip8

namespace Emulator

variable {ρ : Type} [RandomSource ρ]

/-- A step has the effect that the reference gives to the word at the program counter. -/
structure StepsByReference (e : Emulator ρ) : Prop where
  /-- a word that the reference executes leaves the one machine in range that is seen as the
  state after it -/
  executed : ∀ s, e.machine.view.step = .ok s →
    e.step.1 = .executed ∧ e.step.2.machine.registers.InRange ∧ e.step.2.machine.view = s ∧
      ∀ m : Machine ρ, m.registers.InRange → m.view = s → m = e.step.2.machine
  /-- a word that the reference refuses leaves the machine as it was -/
  failed : ∀ fault, e.machine.view.step = .error fault →
    e.step.1 = .failed fault ∧ e.step.2.machine = e.machine
  /-- apart from the machine, only the trace and the journal change -/
  settings : e.step.2 =
    { e with machine := e.step.2.machine, trace := e.step.2.trace, journal := e.step.2.journal }
  /-- the program counter is at the target of the word -/
  pc : ∀ c x y n, e.currentWord = wordOfNibbles c x y n → e.step.1 = .executed →
    e.step.2.pc = (e.machine.view.target c x y n).val
  /-- a flag is the flag of the operands as they were, also when `VF` is one of the registers -/
  flag : ∀ c x y n, e.currentWord = wordOfNibbles c x y n → e.step.1 = .executed →
    ∀ flag, e.machine.view.flag? c x y n = some flag →
      e.step.2.machine.registers.flag = if flag then 1 else 0
  /-- only words of class `C` take a random byte, and they take one -/
  random : ∀ c x y n, e.currentWord = wordOfNibbles c x y n → e.step.1 = .executed →
    e.step.2.machine.random =
      if c = 0xC then (RandomSource.next e.machine.random).2 else e.machine.random

/-- The word at the program counter is the one that the reference looks at. -/
theorem view_step_eq {e : Emulator ρ} (hrange : e.machine.registers.InRange) {c x y n : Nibble}
    (hword : e.currentWord = wordOfNibbles c x y n) :
    e.machine.view.step = e.machine.view.perform c x y n := by
  have hcurrent : e.machine.current = Instruction.ofNibbles c x y n := by
    rw [← decode_wordOfNibbles, ← hword]
    rfl
  rw [← Machine.view_execute_current hrange, hcurrent, Machine.view_execute hrange]

/-- From registers in range, and while no register waits for a key, every step has the effect that
the reference gives to the word at the program counter. -/
theorem stepsByReference (e : Emulator ρ) (hrange : e.machine.registers.InRange)
    (hfree : e.machine.waiting = false) : e.StepsByReference := by
  have hview := Machine.view_execute_current hrange
  rcases e.step_cases with ⟨hwaiting, -⟩ | ⟨m, -, hexecute, hstep⟩ | ⟨fault, -, hexecute, hstep⟩
  · rw [hfree] at hwaiting
    cases hwaiting
  · have hm : m.registers.InRange := Machine.execute_inRange hrange hexecute
    have hafter : e.step.2.machine = m := by rw [hstep]
    have hstate : e.machine.view.step = .ok m.view := by rw [← hview, hexecute]; rfl
    have hperform : ∀ c x y n, e.currentWord = wordOfNibbles c x y n →
        e.machine.view.perform c x y n = .ok m.view := by
      intro c x y n hword
      rw [← view_step_eq hrange hword, hstate]
    exact
      { executed := by
          intro s hs
          obtain rfl : m.view = s := Except.ok.inj (hstate.symm.trans hs)
          rw [hafter]
          refine ⟨by rw [hstep], hm, rfl, ?_⟩
          intro other hother hview
          exact Machine.view_injective hother hm hview
        failed := by
          intro fault hfault
          rw [hstate] at hfault
          cases hfault
        settings := by rw [hstep, traceAttempt_eq]
        pc := by
          intro c x y n hword _
          rw [pc, hafter, Machine.pc, Machine.pc_eq hm,
            Reference.State.pc_of_perform (hperform c x y n hword)]
        flag := by
          intro c x y n hword _ flag hflag
          rw [hafter, Registers.flag, Machine.get_eq hm]
          have hseen := Reference.State.flag_of_perform (hperform c x y n hword) hflag
          rw [show Registers.flagReg = 0xF from rfl, hseen]
          cases flag <;> rfl
        random := by
          intro c x y n hword _
          rw [hafter]
          exact Reference.State.random_of_perform (hperform c x y n hword) }
  · have hstate : e.machine.view.step = .error fault := by rw [← hview, hexecute]; rfl
    have hidle : e.step.1 ≠ .executed := by
      rw [hstep]
      intro hexecuted
      cases hexecuted
    exact
      { executed := by
          intro s hs
          rw [hstate] at hs
          cases hs
        failed := by
          intro other hother
          obtain rfl : fault = other := Except.error.inj (hstate.symm.trans hother)
          rw [hstep, traceAttempt_eq]
          exact ⟨rfl, rfl⟩
        settings := by rw [hstep, traceAttempt_eq]
        pc := fun c x y n _ hexecuted => absurd hexecuted hidle
        flag := fun c x y n _ hexecuted => absurd hexecuted hidle
        random := fun c x y n _ hexecuted => absurd hexecuted hidle }

/-- A machine whose next word adds `VF` to itself, at the end of memory and with a carry. -/
def aliasedAddition : Emulator Tape :=
  let e := initial { stackLimit := some 2 } (Tape.ofList [7])
  { e with machine := { e.machine with
      registers := { e.machine.registers.set Registers.flagReg 200 with pc := 4095 }
      memory := e.machine.memory.load 4095 [0x8F, 0xF4] } }

theorem stepsByReference_aliasedAddition :
    aliasedAddition.machine.registers.InRange ∧ aliasedAddition.machine.waiting = false ∧
      aliasedAddition.StepsByReference ∧ aliasedAddition.step.2.machine.registers.flag = 1 ∧
      aliasedAddition.step.2.pc = 1 := by
  have hrange : aliasedAddition.machine.registers.InRange :=
    ((Registers.inRange_initial (some 2)).set Registers.flagReg (by decide)).withPc (by decide)
  exact ⟨hrange, rfl, stepsByReference aliasedAddition hrange rfl, by decide +kernel,
    by decide +kernel⟩

end Emulator

end Chip8
