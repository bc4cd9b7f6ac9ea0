/-
# The call stack under instructions

Only calls and returns touch the call stack. A call leaves its own address there, and a return goes
on behind the address that it takes off, so a call and its return together are one step of the
program counter. Nothing is asked of the ranges of the registers.
-/

import Chip8.Proofs.Machine.Ranges

namespace Chip8

namespace Machine

variable {ρ : Type} [RandomSource ρ]

/-- What an instruction does to the call stack: a call puts its address on top, a return takes the
top off and goes on behind it, and every other instruction leaves the stack alone. -/
theorem stack_of_execute {m after : Machine ρ} {i : Instruction}
    (hexecute : m.execute i = .ok after) :
    (∃ nnn, i = .call nnn ∧ after.registers.stack = m.pc :: m.registers.stack) ∨
      (∃ address, i = .ret ∧ m.registers.stack = address :: after.registers.stack ∧
        after.pc = followingAddress address) ∨
      after.registers.stack = m.registers.stack := by
  cases i with
  | call nnn =>
    simp only [execute] at hexecute
    cases hpush : m.registers.push m.registers.pc with
    | error fault => rw [hpush] at hexecute; cases hexecute
    | ok pushed =>
      rw [hpush] at hexecute
      obtain rfl := Except.ok.inj hexecute
      obtain ⟨rfl, -⟩ := Registers.push_eq_ok hpush
      exact .inl ⟨nnn, rfl, rfl⟩
  | ret =>
    simp only [execute] at hexecute
    cases hpop : m.registers.pop with
    | error fault => rw [hpop] at hexecute; cases hexecute
    | ok found =>
      obtain ⟨address, popped⟩ := found
      rw [hpop] at hexecute
      obtain rfl := Except.ok.inj hexecute
      exact .inr (.inl ⟨address, rfl, (Registers.pop_eq_ok hpop).1, rfl⟩)
  | drw x y n =>
    simp only [execute, drawSprite] at hexecute
    split at hexecute
    · obtain rfl := Except.ok.inj hexecute
      exact .inr (.inr rfl)
    · cases hexecute
  | seByte x nn | sneByte x nn | seReg x y | sneReg x y | skp x | sknp x =>
    obtain rfl := Except.ok.inj hexecute
    exact .inr (.inr (Registers.stack_advanceSkipping _ _))
  | _ =>
    obtain rfl := Except.ok.inj hexecute
    exact .inr (.inr rfl)

/-- A call that finds room on the call stack is executed. -/
theorem execute_call {m : Machine ρ} (nnn : Address)
    (hroom : ∀ limit, m.registers.stackLimit = some limit →
      (m.registers.stack.length : Int) < limit) :
    m.execute (.call nnn) = .ok { m with
      registers := { m.registers with stack := m.pc :: m.registers.stack, pc := nnn } } := by
  have hpush := m.registers.push_of_not_full m.registers.pc fun limit hlimit =>
    Int.not_le.2 (hroom limit hlimit)
  simp only [execute, hpush]
  rfl

end Machine

end Chip8
