/-
# The ranges of the registers

Registers store whatever they are given, and it is the instructions that keep their values in range.
This module states the ranges once and shows that every instruction keeps them. Each operation on
registers has its own small lemma, so that an instruction is the operation it applies and the range
of the value it stores. What memory, timers, keypad and screen hold is in range by its type.
-/

import Chip8.Machine.Step

namespace Chip8

namespace Registers

/-- Every register holds a value of its width, and the call stack keeps to its limit. -/
structure InRange (r : Registers) : Prop where
  v : ∀ x : Reg, 0 ≤ r.get x ∧ r.get x ≤ 0xFF
  index : 0 ≤ r.index ∧ r.index ≤ 0xFFFF
  pc : 0 ≤ r.pc ∧ r.pc ≤ 0xFFF
  stack : ∀ address ∈ r.stack, 0 ≤ address ∧ address ≤ 0xFFF
  depth : ∀ limit, r.stackLimit = some limit → (r.stack.length : Int) ≤ max 0 limit

/-- Storing in one register leaves the others alone. -/
theorem get_set (r : Registers) (x y : Reg) (value : Int) :
    (r.set x value).get y = if x = y then value else r.get y := by
  by_cases heq : x = y
  · subst heq
    simp [get, set]
  · have hindex : x.val ≠ y.val := fun h => heq (Fin.ext h)
    simp [get, set, heq, hindex]

theorem get_setFlag (r : Registers) (flag : Bool) (y : Reg) :
    (r.setFlag flag).get y = if y = flagReg then (if flag then 1 else 0) else r.get y := by
  rw [setFlag, get_set]
  simp only [eq_comm]

/-- A result and its flag are stored in two registers, or in one, where the flag stays. -/
theorem get_setWithFlag (r : Registers) (x y : Reg) (result : Int × Bool) :
    (r.setWithFlag x result).get y =
      if y = flagReg then (if result.2 then 1 else 0) else if y = x then result.1 else r.get y := by
  rw [setWithFlag, get_setFlag, get_set]
  simp only [eq_comm]

theorem get_loadFrom (r : Registers) (m : Memory) (last y : Reg) :
    (r.loadFrom m last).get y =
      if y ≤ last then ((m.read (r.index + y)).toNat : Int) else r.get y := by
  simp [get, loadFrom]

/-- Loading registers changes no other part. -/
theorem loadFrom_eq (r : Registers) (m : Memory) (last : Reg) :
    r.loadFrom m last = { r with v := (r.loadFrom m last).v } := by
  simp only [loadFrom]

@[simp] theorem get_advance (r : Registers) (x : Reg) : r.advance.get x = r.get x := rfl

theorem length_bytesUpTo (r : Registers) (last : Reg) : (r.bytesUpTo last).length = last + 1 := by
  have hlast := last.isLt
  rw [bytesUpTo, List.length_map, List.length_take, Vector.length_toList]
  omega

theorem byte_inRange (b : UInt8) : 0 ≤ (b.toNat : Int) ∧ (b.toNat : Int) ≤ 0xFF := by
  have hbyte := b.toNat_lt
  omega

theorem stackLimit_advanceSkipping (r : Registers) (skip : Bool) :
    (r.advanceSkipping skip).stackLimit = r.stackLimit := by
  cases skip <;> rfl

theorem stack_advanceSkipping (r : Registers) (skip : Bool) :
    (r.advanceSkipping skip).stack = r.stack := by
  cases skip <;> rfl

theorem push_of_full (r : Registers) (address : Int) {limit : Int}
    (hlimit : r.stackLimit = some limit) (hfull : limit ≤ r.stack.length) :
    r.push address = .error (.stackOverflow limit address) := by
  simp [push, stackFull, hlimit, hfull]

/-- A call stack below its limit, or without one, takes a further address. -/
theorem push_of_not_full (r : Registers) (address : Int)
    (hroom : ∀ limit, r.stackLimit = some limit → ¬ limit ≤ r.stack.length) :
    r.push address = .ok { r with stack := address :: r.stack } := by
  unfold push
  split
  · rename_i limit hlimit
    have hfull : r.stackFull = false := by simpa [stackFull, hlimit] using hroom limit hlimit
    simp [hfull]
  · rfl

/-- A push either finds the call stack at its limit or finds room. -/
theorem push_cases (r : Registers) (address : Int) :
    (∃ limit, r.stackLimit = some limit ∧ limit ≤ r.stack.length ∧
        r.push address = .error (.stackOverflow limit address)) ∨
      (∀ limit, r.stackLimit = some limit → (r.stack.length : Int) < limit) ∧
        r.push address = .ok { r with stack := address :: r.stack } := by
  by_cases hfull : ∃ limit, r.stackLimit = some limit ∧ limit ≤ r.stack.length
  · obtain ⟨limit, hlimit, hle⟩ := hfull
    exact .inl ⟨limit, hlimit, hle, r.push_of_full address hlimit hle⟩
  · have hroom : ∀ limit, r.stackLimit = some limit → ¬ limit ≤ r.stack.length :=
      fun limit hlimit hle => hfull ⟨limit, hlimit, hle⟩
    exact .inr ⟨fun limit hlimit => Int.not_le.1 (hroom limit hlimit),
      r.push_of_not_full address hroom⟩

theorem push_eq_ok {r pushed : Registers} {address : Int} (hpush : r.push address = .ok pushed) :
    pushed = { r with stack := address :: r.stack } ∧
      ∀ limit, r.stackLimit = some limit → (r.stack.length : Int) < limit := by
  rcases r.push_cases address with ⟨limit, -, -, heq⟩ | ⟨hroom, heq⟩
  · rw [heq] at hpush
    cases hpush
  · rw [heq] at hpush
    exact ⟨(Except.ok.inj hpush).symm, hroom⟩

theorem push_eq_error {r : Registers} {address : Int} {fault : Fault}
    (hpush : r.push address = .error fault) :
    ∃ limit, r.stackLimit = some limit ∧ limit ≤ r.stack.length ∧
      fault = .stackOverflow limit address := by
  rcases r.push_cases address with ⟨limit, hlimit, hfull, heq⟩ | ⟨-, heq⟩
  · rw [heq] at hpush
    exact ⟨limit, hlimit, hfull, (Except.error.inj hpush).symm⟩
  · rw [heq] at hpush
    cases hpush

/-- A pop that succeeds takes the top off the call stack, and changes nothing else. -/
theorem pop_eq_ok {r popped : Registers} {address : Int} (hpop : r.pop = .ok (address, popped)) :
    r.stack = address :: popped.stack ∧ popped = { r with stack := popped.stack } := by
  unfold pop at hpop
  split at hpop
  · cases hpop
  · rename_i top rest hstack
    obtain ⟨rfl, rfl⟩ := Prod.mk.inj (Except.ok.inj hpop)
    exact ⟨hstack, rfl⟩

theorem inRange_initial (stackLimit : Option Int) : (initial stackLimit).InRange where
  v x := by simp [initial, get]
  index := by simp [initial]
  pc := by simp [initial, programStart]
  stack := by simp [initial]
  depth limit _ := Int.le_max_left 0 limit

namespace InRange

variable {r : Registers} (hr : r.InRange)
include hr

/-- A byte may be stored in any register. -/
theorem set (x : Reg) {value : Int} (hvalue : 0 ≤ value ∧ value ≤ 0xFF) :
    (r.set x value).InRange where
  v y := by
    rw [get_set]
    split
    · exact hvalue
    · exact hr.v y
  index := hr.index
  pc := hr.pc
  stack := hr.stack
  depth := hr.depth

theorem setFlag (flag : Bool) : (r.setFlag flag).InRange :=
  hr.set flagReg (by cases flag <;> decide)

theorem setWithFlag (x : Reg) {result : Int × Bool} (hvalue : 0 ≤ result.1 ∧ result.1 ≤ 0xFF) :
    (r.setWithFlag x result).InRange :=
  (hr.set x hvalue).setFlag result.2

theorem withPc {address : Int} (haddress : 0 ≤ address ∧ address ≤ 0xFFF) :
    { r with pc := address }.InRange :=
  { hr with pc := haddress }

theorem withIndex {value : Int} (hvalue : 0 ≤ value ∧ value ≤ 0xFFFF) :
    { r with index := value }.InRange :=
  { hr with index := hvalue }

theorem withKeyWait (waiting : Option Reg) : { r with keyWait := waiting }.InRange :=
  { hr with }

/-- The program counter wraps when it moves on. -/
theorem advance : r.advance.InRange :=
  hr.withPc (by unfold followingAddress; omega)

theorem advanceSkipping (skip : Bool) : (r.advanceSkipping skip).InRange := by
  cases skip
  · exact hr.advance
  · exact hr.advance.advance

/-- The registers that are loaded from memory hold bytes. -/
theorem loadFrom (m : Memory) (last : Reg) : (r.loadFrom m last).InRange := by
  have hv : ∀ y : Reg, 0 ≤ (r.loadFrom m last).get y ∧ (r.loadFrom m last).get y ≤ 0xFF := by
    intro y
    rw [get_loadFrom]
    split
    · exact byte_inRange _
    · exact hr.v y
  rw [loadFrom_eq] at hv ⊢
  exact { hr with v := hv }

/-- A call leaves the address of the call on a stack that still keeps to its limit. -/
theorem push {pushed : Registers} (hpush : r.push r.pc = .ok pushed) : pushed.InRange := by
  obtain ⟨rfl, hroom⟩ := push_eq_ok hpush
  refine { hr with stack := ?_, depth := ?_ }
  · intro address hmem
    rcases List.mem_cons.1 hmem with rfl | hold
    · exact hr.pc
    · exact hr.stack address hold
  · intro limit hlimit
    have hbelow := hroom limit hlimit
    simp only [List.length_cons]
    omega

/-- A return takes an address off the stack that is in range. -/
theorem pop {address : Int} {popped : Registers} (hpop : r.pop = .ok (address, popped)) :
    popped.InRange ∧ 0 ≤ address ∧ address ≤ 0xFFF := by
  obtain ⟨hstack, hpopped⟩ := pop_eq_ok hpop
  rw [hpopped]
  refine ⟨{ hr with stack := ?_, depth := ?_ }, hr.stack address (by simp [hstack])⟩
  · intro other hother
    exact hr.stack other (by rw [hstack]; exact List.mem_cons_of_mem _ hother)
  · intro limit hlimit
    have hdepth := hr.depth limit hlimit
    rw [hstack, List.length_cons] at hdepth
    simp only
    omega

end InRange

end Registers

namespace Arithmetic

theorem bitOr_inRange (a b : Int) : 0 ≤ bitOr a b ∧ bitOr a b ≤ 0xFF := by
  have hlt : lowByte a ||| lowByte b < 2 ^ 8 := Nat.or_lt_two_pow (lowByte_lt a) (lowByte_lt b)
  unfold bitOr
  omega

theorem bitAnd_inRange (a b : Int) : 0 ≤ bitAnd a b ∧ bitAnd a b ≤ 0xFF := by
  have hle : lowByte a &&& lowByte b ≤ lowByte a := Nat.and_le_left
  have hlt := lowByte_lt a
  unfold bitAnd
  omega

theorem bitXor_inRange (a b : Int) : 0 ≤ bitXor a b ∧ bitXor a b ≤ 0xFF := by
  have hlt : lowByte a ^^^ lowByte b < 2 ^ 8 := Nat.xor_lt_two_pow (lowByte_lt a) (lowByte_lt b)
  unfold bitXor
  omega

theorem addCarry_inRange (a b : Int) : 0 ≤ (addCarry a b).1 ∧ (addCarry a b).1 ≤ 0xFF := by
  simp only [addCarry]
  omega

theorem subNoBorrow_inRange (a b : Int) :
    0 ≤ (subNoBorrow a b).1 ∧ (subNoBorrow a b).1 ≤ 0xFF := by
  simp only [subNoBorrow]
  omega

theorem shiftRight_inRange (a : Int) : 0 ≤ (shiftRight a).1 ∧ (shiftRight a).1 ≤ 0xFF := by
  simp only [shiftRight]
  omega

theorem shiftLeft_inRange (a : Int) : 0 ≤ (shiftLeft a).1 ∧ (shiftLeft a).1 ≤ 0xFF := by
  simp only [shiftLeft]
  omega

theorem addWrapping_inRange (a b : Int) : 0 ≤ addWrapping a b ∧ addWrapping a b ≤ 0xFF := by
  unfold addWrapping
  omega

end Arithmetic

namespace Machine

variable {ρ : Type}

/-- From a register in range a sprite can always be drawn. -/
theorem drawSprite_eq_ok {m : Machine ρ} (hr : m.registers.InRange) (x y : Reg) (n : Nibble) :
    m.drawSprite x y n =
      let drawn := m.screen.drawRows (Display.spriteColumns (m.registers.get x))
        (m.registers.get y) (m.memory.readBlock m.registers.index n)
      .ok { m with screen := drawn.1, registers := (m.registers.setFlag drawn.2).advance } := by
  have hx := hr.v x
  have hcolumn : Word.holds (m.registers.get x) = true := Word.holds_of_le hx.1 (by omega)
  have hfree : Display.obstacle? 64 32 (m.registers.get x)
      (m.memory.readBlock m.registers.index n).length = none := by
    simp [Display.obstacle?, hcolumn]
  simp only [drawSprite, Display.draw, hfree]

variable [RandomSource ρ]

/-- No instruction changes the limit on the call stack. -/
theorem stackLimit_of_execute {m after : Machine ρ} {i : Instruction}
    (hexecute : m.execute i = .ok after) :
    after.registers.stackLimit = m.registers.stackLimit := by
  cases i with
  | call nnn =>
    simp only [execute] at hexecute
    cases hpush : m.registers.push m.registers.pc with
    | error fault => rw [hpush] at hexecute; cases hexecute
    | ok pushed =>
      rw [hpush] at hexecute
      obtain rfl := Except.ok.inj hexecute
      obtain ⟨rfl, -⟩ := Registers.push_eq_ok hpush
      rfl
  | ret =>
    simp only [execute] at hexecute
    cases hpop : m.registers.pop with
    | error fault => rw [hpop] at hexecute; cases hexecute
    | ok found =>
      obtain ⟨address, popped⟩ := found
      rw [hpop] at hexecute
      obtain rfl := Except.ok.inj hexecute
      have hlimit : popped.stackLimit = m.registers.stackLimit := by
        rw [(Registers.pop_eq_ok hpop).2]
      exact hlimit
  | drw x y n =>
    simp only [execute, drawSprite] at hexecute
    split at hexecute
    · obtain rfl := Except.ok.inj hexecute
      rfl
    · cases hexecute
  | seByte x nn | sneByte x nn | seReg x y | sneReg x y | skp x | sknp x =>
    obtain rfl := Except.ok.inj hexecute
    exact Registers.stackLimit_advanceSkipping _ _
  | _ =>
    obtain rfl := Except.ok.inj hexecute
    rfl

/-- An instruction keeps the registers in range. -/
theorem execute_inRange {m after : Machine ρ} {i : Instruction} (hr : m.registers.InRange)
    (hexecute : m.execute i = .ok after) : after.registers.InRange := by
  -- An instruction is an operation on registers, and each case names its operation and the range
  -- of what it stores. Only return, call and drawing have outcomes to tell apart first.
  cases i with
  | nop | cls =>
    obtain rfl := Except.ok.inj hexecute
    exact hr.advance
  | ret =>
    simp only [execute] at hexecute
    cases hpop : m.registers.pop with
    | error fault => rw [hpop] at hexecute; cases hexecute
    | ok found =>
      obtain ⟨address, popped⟩ := found
      rw [hpop] at hexecute
      obtain rfl := Except.ok.inj hexecute
      obtain ⟨hpopped, haddress⟩ := hr.pop hpop
      exact (hpopped.withPc haddress).advance
  | jp nnn =>
    obtain rfl := Except.ok.inj hexecute
    exact hr.withPc (by omega)
  | call nnn =>
    simp only [execute] at hexecute
    cases hpush : m.registers.push m.registers.pc with
    | error fault => rw [hpush] at hexecute; cases hexecute
    | ok pushed =>
      rw [hpush] at hexecute
      obtain rfl := Except.ok.inj hexecute
      exact (hr.push hpush).withPc (by omega)
  | jpOffset nnn =>
    obtain rfl := Except.ok.inj hexecute
    exact hr.withPc (by omega)
  | seByte x nn | sneByte x nn | seReg x y | sneReg x y | skp x | sknp x =>
    obtain rfl := Except.ok.inj hexecute
    exact hr.advanceSkipping _
  | ldByte x nn =>
    obtain rfl := Except.ok.inj hexecute
    exact (hr.set x (by omega)).advance
  | addByte x nn =>
    obtain rfl := Except.ok.inj hexecute
    exact (hr.set x (Arithmetic.addWrapping_inRange _ _)).advance
  | ldReg x y =>
    obtain rfl := Except.ok.inj hexecute
    exact (hr.set x (hr.v y)).advance
  | or x y =>
    obtain rfl := Except.ok.inj hexecute
    exact (hr.set x (Arithmetic.bitOr_inRange _ _)).advance
  | and x y =>
    obtain rfl := Except.ok.inj hexecute
    exact (hr.set x (Arithmetic.bitAnd_inRange _ _)).advance
  | xor x y =>
    obtain rfl := Except.ok.inj hexecute
    exact (hr.set x (Arithmetic.bitXor_inRange _ _)).advance
  | addReg x y =>
    obtain rfl := Except.ok.inj hexecute
    exact (hr.setWithFlag x (Arithmetic.addCarry_inRange _ _)).advance
  | sub x y | subn x y =>
    obtain rfl := Except.ok.inj hexecute
    exact (hr.setWithFlag x (Arithmetic.subNoBorrow_inRange _ _)).advance
  | shr x =>
    obtain rfl := Except.ok.inj hexecute
    exact (hr.setWithFlag x (Arithmetic.shiftRight_inRange _)).advance
  | shl x =>
    obtain rfl := Except.ok.inj hexecute
    exact (hr.setWithFlag x (Arithmetic.shiftLeft_inRange _)).advance
  | rnd x nn =>
    obtain rfl := Except.ok.inj hexecute
    exact (hr.set x (Arithmetic.bitAnd_inRange _ _)).advance
  | ldIndex nnn =>
    obtain rfl := Except.ok.inj hexecute
    exact (hr.withIndex (by omega)).advance
  | addIndex x =>
    obtain rfl := Except.ok.inj hexecute
    exact (hr.withIndex (by omega)).advance
  | ldGlyph x =>
    obtain rfl := Except.ok.inj hexecute
    exact (hr.withIndex (by unfold glyphAddress glyphSize; omega)).advance
  | drw x y n =>
    simp only [execute, drawSprite_eq_ok hr] at hexecute
    obtain rfl := Except.ok.inj hexecute
    exact (hr.setFlag _).advance
  | waitKey x =>
    obtain rfl := Except.ok.inj hexecute
    exact (hr.withKeyWait _).advance
  | getDelay x =>
    obtain rfl := Except.ok.inj hexecute
    exact (hr.set x (Registers.byte_inRange _)).advance
  | setDelay x | setSound x | storeDigits x | storeRegs x =>
    obtain rfl := Except.ok.inj hexecute
    exact hr.advance
  | loadRegs x =>
    obtain rfl := Except.ok.inj hexecute
    exact (hr.loadFrom m.memory x).advance

/-- From registers in range only a return and a call can fail: the one on an empty call stack, the
other on one that has reached its limit. -/
theorem fault_of_execute {m : Machine ρ} {i : Instruction} {fault : Fault}
    (hr : m.registers.InRange) (hexecute : m.execute i = .error fault) :
    (i = .ret ∧ m.registers.stack = [] ∧ fault = .stackUnderflow m.pc) ∨
      ∃ nnn limit, i = .call nnn ∧ m.registers.stackLimit = some limit ∧
        limit ≤ m.registers.stack.length ∧ fault = .stackOverflow limit m.pc := by
  cases i with
  | ret =>
    simp only [execute, Registers.pop] at hexecute
    cases hstack : m.registers.stack with
    | nil =>
      rw [hstack] at hexecute
      exact .inl ⟨rfl, rfl, (Except.error.inj hexecute).symm⟩
    | cons address rest => rw [hstack] at hexecute; cases hexecute
  | call nnn =>
    simp only [execute] at hexecute
    cases hpush : m.registers.push m.registers.pc with
    | error cause =>
      rw [hpush] at hexecute
      obtain ⟨limit, hlimit, hfull, rfl⟩ := Registers.push_eq_error hpush
      exact .inr ⟨nnn, limit, rfl, hlimit, hfull, (Except.error.inj hexecute).symm⟩
    | ok pushed => rw [hpush] at hexecute; cases hexecute
  | drw x y n => simp [execute, drawSprite_eq_ok hr] at hexecute
  | _ => cases hexecute

end Machine

end Chip8
