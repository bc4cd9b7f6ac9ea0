/-
# Calculations with registers

An instruction that calculates takes its operands from one or two registers, or one from its word,
and leaves the result in the first one. Five of these instructions have a flag as well, which goes
to `VF`. Result and flag together are then the exact result of the calculation on integers, whatever
registers the operands come from. Where the result goes to `VF` too, the flag is what stays.
-/

import Chip8.Proofs.Emulator.Calls
import Chip8.Proofs.Emulator.Steps
import Chip8.Proofs.Machine.Bytes
import Chip8.Proofs.Wrapping

namespace Chip8

open Registers (flagReg)
open scoped Sizes

/-- The calculations with a flag. -/
inductive FlaggedOp where
  | add | sub | subn | shr | shl
  deriving DecidableEq, Repr

namespace FlaggedOp

/-- The instruction that calculates with `Vx` and `Vy`; a shift has one operand only. -/
def instruction (op : FlaggedOp) (x y : Reg) : Instruction :=
  match op with
  | add => .addReg x y
  | sub => .sub x y
  | subn => .subn x y
  | shr => .shr x
  | shl => .shl x

/-- A result and a flag are exact for the operands `a` and `b`. -/
def Exact (op : FlaggedOp) (a b result flag : Int) : Prop :=
  match op with
  | add => result + 256 * flag = a + b
  | sub => result = a - b + 256 * (1 - flag)
  | subn => result = b - a + 256 * (1 - flag)
  | shr => 2 * result + flag = a
  | shl => result + 256 * flag = 2 * a

/-- The result and the flag. -/
def compute (op : FlaggedOp) (a b : Int) : Int × Bool :=
  match op with
  | add => Arithmetic.addCarry a b
  | sub => Arithmetic.subNoBorrow a b
  | subn => Arithmetic.subNoBorrow b a
  | shr => Arithmetic.shiftRight a
  | shl => Arithmetic.shiftLeft a

theorem compute_inRange (op : FlaggedOp) (a b : Int) :
    0 ≤ (op.compute a b).1 ∧ (op.compute a b).1 ≤ 0xFF := by
  cases op with
  | add => exact Arithmetic.addCarry_inRange a b
  | sub => exact Arithmetic.subNoBorrow_inRange a b
  | subn => exact Arithmetic.subNoBorrow_inRange b a
  | shr => exact Arithmetic.shiftRight_inRange a
  | shl => exact Arithmetic.shiftLeft_inRange a

/-- On bytes the result and the flag are exact. -/
theorem exact_compute (op : FlaggedOp) {a b : Int} (ha : 0 ≤ a ∧ a ≤ 0xFF)
    (hb : 0 ≤ b ∧ b ≤ 0xFF) :
    op.Exact a b (op.compute a b).1 (if (op.compute a b).2 then 1 else 0) := by
  cases op <;>
    simp only [Exact, compute, Arithmetic.addCarry, Arithmetic.subNoBorrow, Arithmetic.shiftRight,
      Arithmetic.shiftLeft, decide_eq_true_eq, beq_iff_eq] <;>
    split <;> omega

end FlaggedOp

/-- The calculations without a flag. -/
inductive PlainOp where
  | ldByte (nn : Byte) | addByte (nn : Byte) | ldReg | or | and | xor
  deriving DecidableEq, Repr

namespace PlainOp

/-- The instruction that calculates with `Vx`, and with `Vy` or a byte of its own. -/
def instruction (op : PlainOp) (x y : Reg) : Instruction :=
  match op with
  | ldByte nn => .ldByte x nn
  | addByte nn => .addByte x nn
  | ldReg => .ldReg x y
  | or => .or x y
  | and => .and x y
  | xor => .xor x y

/-- The result for the operands `a` and `b`. -/
def result (op : PlainOp) (a b : Int) : Int :=
  match op with
  | ldByte nn => nn
  | addByte nn => (a + nn) % 256
  | ldReg => b
  | or => (a.toNat ||| b.toNat : Nat)
  | and => (a.toNat &&& b.toNat : Nat)
  | xor => (a.toNat ^^^ b.toNat : Nat)

end PlainOp

namespace Machine

variable {ρ : Type} [RandomSource ρ] {m : Machine ρ}

theorem execute_flaggedOp (op : FlaggedOp) (x y : Reg) :
    m.execute (op.instruction x y) = .ok (m.withRegisters
      (m.registers.setWithFlag x (op.compute (m.registers.get x) (m.registers.get y)))) := by
  cases op <;> rfl

theorem execute_plainOp (hrange : m.registers.InRange) (op : PlainOp) (x y : Reg) :
    m.execute (op.instruction x y) = .ok (m.withRegisters
      (m.registers.set x (op.result (m.registers.get x) (m.registers.get y)))) := by
  have hx := Arithmetic.lowByte_of_le (hrange.v x)
  have hy := Arithmetic.lowByte_of_le (hrange.v y)
  cases op with
  | ldByte _ | addByte _ | ldReg => rfl
  | or | and | xor =>
    simp only [PlainOp.instruction, PlainOp.result, execute, Arithmetic.bitOr, Arithmetic.bitAnd,
      Arithmetic.bitXor, hx, hy]

end Machine

namespace Emulator

variable {ρ : Type} [RandomSource ρ]

/-- The value of a register. -/
def valueOf (e : Emulator ρ) (x : Reg) : Int := e.machine.registers.get x

/-- The next step calculates with a flag. -/
structure CalculatesFlagged (e : Emulator ρ) (op : FlaggedOp) (x y : Reg) : Prop where
  executed : e.step.1 = .executed
  flag : e.step.2.valueOf flagReg = 0 ∨ e.step.2.valueOf flagReg = 1
  /-- there is one byte that is exact with the flag, and it is left in `Vx` unless the flag is -/
  exact : ∃ result, 0 ≤ result ∧ result ≤ 0xFF ∧
    op.Exact (e.valueOf x) (e.valueOf y) result (e.step.2.valueOf flagReg) ∧
      (x ≠ flagReg → e.step.2.valueOf x = result)
  others : ∀ z, z ≠ x → z ≠ flagReg → e.step.2.valueOf z = e.valueOf z

/-- The next step calculates without a flag. -/
structure CalculatesPlain (e : Emulator ρ) (op : PlainOp) (x y : Reg) : Prop where
  executed : e.step.1 = .executed
  result : e.step.2.valueOf x = op.result (e.valueOf x) (e.valueOf y)
  /-- with `VF` among them -/
  others : ∀ z, z ≠ x → e.step.2.valueOf z = e.valueOf z

/-- The next step calculates exactly, if it calculates. -/
structure CalculatesExactly (e : Emulator ρ) : Prop where
  flagged : ∀ (op : FlaggedOp) (x y : Reg), e.machine.current = op.instruction x y →
    e.CalculatesFlagged op x y
  plain : ∀ (op : PlainOp) (x y : Reg), e.machine.current = op.instruction x y →
    e.CalculatesPlain op x y

section Steps

variable {e : Emulator ρ} (hrange : e.machine.registers.InRange)
  (hfree : e.machine.waiting = false) {x y : Reg}
include hrange hfree

theorem calculatesFlagged {op : FlaggedOp} (hcurrent : e.machine.current = op.instruction x y) :
    e.CalculatesFlagged op x y := by
  have hstep := step_of_current hfree hcurrent (Machine.execute_flaggedOp op x y)
  let outcome := op.compute (e.valueOf x) (e.valueOf y)
  have hvalue (z : Reg) : e.step.2.valueOf z =
      if z = flagReg then (if outcome.2 then 1 else 0)
      else if z = x then outcome.1 else e.valueOf z := by
    rw [hstep]
    exact (Registers.get_advance _ z).trans (Registers.get_setWithFlag _ x z outcome)
  have hflag : e.step.2.valueOf flagReg = if outcome.2 then 1 else 0 := by
    rw [hvalue, if_pos rfl]
  obtain ⟨hlow, hhigh⟩ := op.compute_inRange (e.valueOf x) (e.valueOf y)
  exact
    { executed := by rw [hstep]
      flag := by rw [hflag]; split <;> simp
      exact := by
        refine ⟨outcome.1, hlow, hhigh, ?_, fun hx => ?_⟩
        · rw [hflag]
          exact op.exact_compute (hrange.v x) (hrange.v y)
        · rw [hvalue, if_neg hx, if_pos rfl]
      others := fun z hz hzflag => by rw [hvalue, if_neg hzflag, if_neg hz] }

theorem calculatesPlain {op : PlainOp} (hcurrent : e.machine.current = op.instruction x y) :
    e.CalculatesPlain op x y := by
  have hstep := step_of_current hfree hcurrent (Machine.execute_plainOp hrange op x y)
  have hvalue (z : Reg) : e.step.2.valueOf z =
      if x = z then op.result (e.valueOf x) (e.valueOf y) else e.valueOf z := by
    rw [hstep]
    exact (Registers.get_advance _ z).trans (Registers.get_set _ x z _)
  exact
    { executed := by rw [hstep]
      result := by rw [hvalue, if_pos rfl]
      others := fun z hz => by rw [hvalue, if_neg hz.symm] }

end Steps

/-- From registers in range, every instruction that calculates does so exactly, up to its flag. -/
theorem calculatesExactly {e : Emulator ρ} (hrange : e.machine.registers.InRange)
    (hfree : e.machine.waiting = false) : e.CalculatesExactly where
  flagged _ _ _ := calculatesFlagged hrange hfree
  plain _ _ _ := calculatesPlain hrange hfree

/-- A machine whose next word subtracts `VF` from `V3`, with a borrow. -/
def flagSubtraction : Emulator Tape :=
  let e := initial { stackLimit := some 2 } (Tape.ofList [7])
  { e with machine := { e.machine with
      registers := (e.machine.registers.set 3 7).set flagReg 200
      memory := e.machine.memory.load 0x200 [0x83, 0xF5] } }

theorem calculatesExactly_flagSubtraction :
    flagSubtraction.machine.current = FlaggedOp.sub.instruction 3 flagReg ∧
      flagSubtraction.CalculatesExactly ∧ flagSubtraction.step.2.valueOf 3 = 63 ∧
      flagSubtraction.step.2.valueOf flagReg = 0 := by
  have hrange : flagSubtraction.machine.registers.InRange :=
    ((Registers.inRange_initial (some 2)).set 3 (by decide)).set flagReg (by decide)
  exact ⟨by decide +kernel, calculatesExactly hrange rfl, by decide +kernel, by decide +kernel⟩

end Emulator

end Chip8
