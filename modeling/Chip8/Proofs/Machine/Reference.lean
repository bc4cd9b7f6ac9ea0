/-
# A reference for the instructions

The instructions once more, read off the four nibbles of the word and on a state whose types have
the widths of the hardware, so that arithmetic and addresses wrap by themselves. Nothing here uses
the instruction table, the instructions or the operations of the machine; a screen is a function on
pixels, and a sprite is drawn by saying which pixels it inverts.

Each branch of `State.perform` names every component that the instruction changes. What it does to
the program counter, to the flag and to the source of random bytes is stated again below as one
fact about all words.
-/

import Chip8.Fault
import Chip8.Instruction.Basic
import Chip8.Proofs.Wrapping
import Chip8.Random.Source

namespace Chip8.Reference

open scoped Sizes

/-- The state of the machine in the widths of the hardware. -/
@[ext] structure State (ρ : Type) where
  v : Reg → UInt8
  index : UInt16
  pc : Address
  /-- return addresses, the most recent first -/
  stack : List Address
  /-- the register that waits for a key -/
  keyWait : Option Reg
  /-- the greatest depth of the call stack, if it has one -/
  stackLimit : Option Int
  memory : Address → UInt8
  /-- the pixels by column and row -/
  screen : Fin 64 → Fin 32 → Bool
  delay : UInt8
  sound : UInt8
  keys : Nibble → Bool
  random : ρ

namespace State

variable {ρ : Type}

/-- The program counter goes to the next word. -/
def next (s : State ρ) : State ρ := { s with pc := s.pc + 2 }

/-- The program counter goes to the next word, or over it. -/
def skipIf (s : State ρ) (condition : Bool) : State ρ :=
  if condition then s.next.next else s.next

/-- A register takes a value. -/
def put (s : State ρ) (x : Reg) (value : UInt8) : State ρ :=
  { s with v := fun z => if z = x then value else s.v z }

/-- `VF` takes a flag. -/
def putFlag (s : State ρ) (flag : Bool) : State ρ := s.put 0xF (if flag then 1 else 0)

/-- The address `k` places behind the index. -/
def behindIndex (s : State ρ) (k : Nat) : Address := Fin.ofNat 4096 (s.index.toNat + k)

/-- How far an address lies behind the index. -/
def distance (s : State ρ) (address : Address) : Nat :=
  (address - Fin.ofNat 4096 s.index.toNat).val

/-- Bytes go to memory from the index on. -/
def store (s : State ρ) (bytes : List UInt8) : State ρ :=
  { s with memory := fun address => (bytes[s.distance address]?).getD (s.memory address) }

/-- The sprite of `n` rows at the index has a dot on a pixel, when its corner is at `Vx` and `Vy`.
Its columns count from the high bit of a row. -/
def inked (s : State ρ) (x y : Reg) (n : Nibble) (column : Fin 64) (row : Fin 32) : Bool :=
  let across := (column - Fin.ofNat 64 (s.v x).toNat).val
  let down := (row - Fin.ofNat 32 (s.v y).toNat).val
  decide (across < 8) && decide (down < n.val) &&
    (s.memory (s.behindIndex down)).toNat.testBit (7 - across)

/-- A dot of the sprite is on a pixel that is on. -/
def collides (s : State ρ) (x y : Reg) (n : Nibble) : Bool :=
  decide (∃ column row, s.screen column row = true ∧ s.inked x y n column row = true)

/-- The dots of the sprite are inverted. -/
def draw (s : State ρ) (x y : Reg) (n : Nibble) : State ρ :=
  { s with screen := fun column row => xor (s.screen column row) (s.inked x y n column row) }

/-- What the instruction word with the nibbles `c`, `x`, `y` and `n` does. -/
def perform [RandomSource ρ] (s : State ρ) (c x y n : Nibble) : Except Fault (State ρ) :=
  let nn := UInt8.ofNat (y * 16 + n)
  let nnn : Address := Fin.ofNat 4096 ((x * 16 + y) * 16 + n)
  let vx := s.v x
  let vy := s.v y
  match c with
  | 0x0 =>
    if x = 0 ∧ y = 0xE ∧ n = 0 then .ok { s with screen := fun _ _ => false }.next
    else if x = 0 ∧ y = 0xE ∧ n = 0xE then
      match s.stack with
      | address :: rest => .ok { s with stack := rest, pc := address }.next
      | [] => .error (.stackUnderflow s.pc)
    else .ok s.next
  | 0x1 => .ok { s with pc := nnn }
  | 0x2 =>
    match s.stackLimit with
    | some limit =>
      if limit ≤ s.stack.length then .error (.stackOverflow limit s.pc)
      else .ok { s with stack := s.pc :: s.stack, pc := nnn }
    | none => .ok { s with stack := s.pc :: s.stack, pc := nnn }
  | 0x3 => .ok (s.skipIf (vx = nn))
  | 0x4 => .ok (s.skipIf (vx ≠ nn))
  | 0x5 => if n = 0 then .ok (s.skipIf (vx = vy)) else .ok s.next
  | 0x6 => .ok (s.put x nn).next
  | 0x7 => .ok (s.put x (vx + nn)).next
  | 0x8 =>
    match n with
    | 0x0 => .ok (s.put x vy).next
    | 0x1 => .ok (s.put x (vx ||| vy)).next
    | 0x2 => .ok (s.put x (vx &&& vy)).next
    | 0x3 => .ok (s.put x (vx ^^^ vy)).next
    | 0x4 => .ok ((s.put x (vx + vy)).putFlag (255 < vx.toNat + vy.toNat)).next
    | 0x5 => .ok ((s.put x (vx - vy)).putFlag (vy ≤ vx)).next
    | 0x6 => .ok ((s.put x (vx >>> 1)).putFlag (vx.toNat.testBit 0)).next
    | 0x7 => .ok ((s.put x (vy - vx)).putFlag (vx ≤ vy)).next
    | 0xE => .ok ((s.put x (vx <<< 1)).putFlag (vx.toNat.testBit 7)).next
    | _ => .ok s.next
  | 0x9 => if n = 0 then .ok (s.skipIf (vx ≠ vy)) else .ok s.next
  | 0xA => .ok { s with index := UInt16.ofNat nnn }.next
  | 0xB => .ok { s with pc := Fin.ofNat 4096 (s.v 0).toNat + nnn }
  | 0xC =>
    let (byte, random) := RandomSource.next s.random
    .ok ({ s with random }.put x (byte &&& nn)).next
  | 0xD => .ok ((s.draw x y n).putFlag (s.collides x y n)).next
  | 0xE =>
    match y, n with
    | 0x9, 0xE => .ok (s.skipIf (s.keys (fourBits vx.toNat)))
    | 0xA, 0x1 => .ok (s.skipIf (!s.keys (fourBits vx.toNat)))
    | _, _ => .ok s.next
  | 0xF =>
    match y, n with
    | 0x0, 0x7 => .ok (s.put x s.delay).next
    | 0x0, 0xA => .ok { s with keyWait := some x }.next
    | 0x1, 0x5 => .ok { s with delay := vx }.next
    | 0x1, 0x8 => .ok { s with sound := vx }.next
    | 0x1, 0xE => .ok { s with index := s.index + vx.toUInt16 }.next
    | 0x2, 0x9 => .ok { s with index := (vx &&& 0xF).toUInt16 * 5 }.next
    | 0x3, 0x3 => .ok (s.store [vx / 100, vx / 10 % 10, vx % 10]).next
    | 0x5, 0x5 => .ok (s.store ((List.range (x + 1)).map fun k => s.v (fourBits k))).next
    | 0x6, 0x5 =>
      .ok { s with v := fun z => if z ≤ x then s.memory (s.behindIndex z) else s.v z }.next
    | _, _ => .ok s.next
  | _ => .ok s.next

/-- One step: what the word at the program counter does. -/
def step [RandomSource ρ] (s : State ρ) : Except Fault (State ρ) :=
  let high := (s.memory s.pc).toNat
  let low := (s.memory (s.pc + 1)).toNat
  s.perform (fourBits (high / 16)) (fourBits high) (fourBits (low / 16)) (fourBits low)

/-- The word skips the next one. -/
def skips (s : State ρ) (c x y n : Nibble) : Bool :=
  match c with
  | 0x3 => s.v x = UInt8.ofNat (y * 16 + n)
  | 0x4 => s.v x ≠ UInt8.ofNat (y * 16 + n)
  | 0x5 => n = 0 ∧ s.v x = s.v y
  | 0x9 => n = 0 ∧ s.v x ≠ s.v y
  | 0xE =>
    match y, n with
    | 0x9, 0xE => s.keys (fourBits (s.v x).toNat)
    | 0xA, 0x1 => !s.keys (fourBits (s.v x).toNat)
    | _, _ => false
  | _ => false

/-- Where the program counter goes: to the address of a jump or a call, behind the address on top of
the call stack on a return, and otherwise on by one word, or by two when the word skips. -/
def target (s : State ρ) (c x y n : Nibble) : Address :=
  match c with
  | 0x1 | 0x2 => Fin.ofNat 4096 ((x * 16 + y) * 16 + n)
  | 0xB => Fin.ofNat 4096 (s.v 0).toNat + Fin.ofNat 4096 ((x * 16 + y) * 16 + n)
  | _ =>
    if c = 0 ∧ x = 0 ∧ y = 0xE ∧ n = 0xE then s.stack.headD s.pc + 2
    else if s.skips c x y n then s.pc + 4 else s.pc + 2

/-- The flag of a word that has one. -/
def flag? (s : State ρ) (c x y n : Nibble) : Option Bool :=
  match c with
  | 0x8 =>
    match n with
    | 0x4 => some (255 < (s.v x).toNat + (s.v y).toNat)
    | 0x5 => some (s.v y ≤ s.v x)
    | 0x6 => some ((s.v x).toNat.testBit 0)
    | 0x7 => some (s.v x ≤ s.v y)
    | 0xE => some ((s.v x).toNat.testBit 7)
    | _ => none
  | 0xD => some (s.collides x y n)
  | _ => none

section Components

variable (s : State ρ) (x y : Reg) (n : Nibble) (value : UInt8) (flag : Bool) (bytes : List UInt8)

@[simp] theorem pc_next : s.next.pc = s.pc + 2 := rfl

@[simp] theorem pc_put : (s.put x value).pc = s.pc := rfl

@[simp] theorem pc_putFlag : (s.putFlag flag).pc = s.pc := rfl

@[simp] theorem pc_draw : (s.draw x y n).pc = s.pc := rfl

@[simp] theorem pc_store : (s.store bytes).pc = s.pc := rfl

@[simp] theorem pc_skipIf : (s.skipIf flag).pc = if flag then s.pc + 4 else s.pc + 2 := by
  cases flag
  · rfl
  · simp only [skipIf, if_true, pc_next, Fin.ext_iff, Fin.val_add]
    omega

@[simp] theorem random_next : s.next.random = s.random := rfl

@[simp] theorem random_put : (s.put x value).random = s.random := rfl

@[simp] theorem random_putFlag : (s.putFlag flag).random = s.random := rfl

@[simp] theorem random_draw : (s.draw x y n).random = s.random := rfl

@[simp] theorem random_store : (s.store bytes).random = s.random := rfl

@[simp] theorem random_skipIf : (s.skipIf flag).random = s.random := by
  cases flag <;> rfl

/-- A flag that is put last is there. -/
theorem flag_next_putFlag : (s.putFlag flag).next.v 0xF = if flag then 1 else 0 := rfl

end Components

variable [RandomSource ρ] {s after : State ρ} {c x y n : Nibble}

/-- After a word the program counter is at the target that the word had before. -/
theorem pc_of_perform (hperform : s.perform c x y n = .ok after) :
    after.pc = s.target c x y n := by
  -- One case for each branch of `perform`; a branch that fails has no state after it.
  revert hperform
  fun_cases perform s c x y n
  all_goals
    intro hperform
    cases hperform
  all_goals simp_all +zetaDelta [target, skips]

/-- After a word with a flag, `VF` holds the flag of the operands as they were, whatever register
the word names. -/
theorem flag_of_perform (hperform : s.perform c x y n = .ok after) {flag : Bool}
    (hflag : s.flag? c x y n = some flag) : after.v 0xF = if flag then 1 else 0 := by
  revert hperform hflag
  fun_cases perform s c x y n
  all_goals
    intro hperform hflag
    cases hperform
  all_goals simp_all +zetaDelta [flag?, flag_next_putFlag]

/-- Only words of class `C` take a random byte, and they take one. -/
theorem random_of_perform (hperform : s.perform c x y n = .ok after) :
    after.random = if c = 0xC then (RandomSource.next s.random).2 else s.random := by
  revert hperform
  fun_cases perform s c x y n
  all_goals
    intro hperform
    cases hperform
  all_goals simp_all

end State

end Chip8.Reference
