/-
# Loading a ROM

A ROM is loaded whole or not at all. The room behind its base is compared with its length before
anything is written, so a ROM that is too long changes nothing, and one that fits ends at the last
cell of memory at the latest: it does not wrap around into the glyphs. Memory by itself makes no
such comparison. A block of any base wraps around there, and as long as it is not longer than memory
its bytes go to different cells and are all read back.
-/

import Chip8.Proofs.Emulator.Calls
import Chip8.Proofs.Memory.Blocks

namespace Chip8

namespace Memory

/-- Memory takes a block: the bytes are read back from where they were stored, around the end of
memory if need be, and no other cell has changed. -/
structure TakesBlock (m : Memory) (address : Int) (bytes : List UInt8) : Prop where
  block : (m.load address bytes).readBlock address bytes.length = bytes
  others : ∀ place : Int, (∀ k : Nat, k < bytes.length → (address + k) % 4096 ≠ place % 4096) →
    (m.load address bytes).read place = m.read place

theorem takesBlock (m : Memory) (address : Int) {bytes : List UInt8}
    (hfit : bytes.length ≤ 4096) : m.TakesBlock address bytes where
  block := m.readBlock_load address hfit
  others _ hother := m.read_load_of_forall_ne hfit hother

end Memory

namespace Emulator

variable {ρ : Type}

theorem load_eq_error (e : Emulator ρ) {rom : List UInt8} {base : Int}
    (hlong : Machine.room base < rom.length) :
    e.load rom base = .error { size := rom.length, room := Machine.room base } := by
  simp only [load, Machine.load, if_pos hlong]

/-- A ROM that fits is copied into memory and started. -/
theorem load_eq_ok (e : Emulator ρ) {rom : List UInt8} {base : Int}
    (hfit : (rom.length : Int) ≤ Machine.room base) :
    e.load rom base = .ok ({ e with machine := { e.machine with
      memory := e.machine.memory.load base rom
      registers := { e.machine.registers with pc := base } } }.report
        (.loaded rom.length base)) := by
  simp only [load, Machine.load, if_neg (Int.not_lt.2 hfit)]

/-- The refusal of a ROM tells its length and the room that it would have had. -/
theorem load_eq_error_iff (e : Emulator ρ) {rom : List UInt8} {base : Int} {error : RomTooLarge} :
    e.load rom base = .error error ↔ Machine.room base < rom.length ∧
      error = { size := rom.length, room := Machine.room base } := by
  by_cases hlong : Machine.room base < rom.length
  · rw [e.load_eq_error hlong, Except.error.injEq, and_iff_right hlong, eq_comm]
  · rw [e.load_eq_ok (Int.not_lt.1 hlong)]
    exact iff_of_false (fun hrefused => nomatch hrefused) fun hrefused => hlong hrefused.1

section Calls

variable [RandomSource ρ] {e later : Emulator ρ} {rom : List UInt8} {base : Int}

theorem after_load_of_eq_error {error : RomTooLarge} (hload : e.load rom base = .error error) :
    e.after (.load rom base) = e := by
  rw [after, hload]
  rfl

theorem after_load_of_eq_ok (hload : e.load rom base = .ok later) :
    e.after (.load rom base) = later := by
  rw [after, hload]
  rfl

end Calls

/-- An emulator `after` that has been loaded with a ROM, and was `before` it. -/
structure IsLoaded (after before : Emulator ρ) (rom : List UInt8) (base : Int) : Prop where
  block : after.machine.memory.readBlock base rom.length = rom
  /-- in front of the ROM, where the glyphs are, and behind it memory is as it was -/
  outside : ∀ place : Int, 0 ≤ place ∧ place < 4096 → place < base ∨ base + rom.length ≤ place →
    after.machine.memory.read place = before.machine.memory.read place
  pc : after.pc = base
  /-- memory and program counter apart, all that is new is the report on the load -/
  others : after = { before with
    machine := { before.machine with
      memory := after.machine.memory
      registers := { before.machine.registers with pc := base } }
    journal := before.journal.push (.loaded rom.length base) }

/-- A ROM is loaded whole, or refused and not loaded at all. -/
structure LoadsWhole [RandomSource ρ] (e : Emulator ρ) (rom : List UInt8) (base : Int) : Prop where
  /-- it is refused exactly if it is longer than the room behind its base -/
  refused_iff : ∀ error, e.load rom base = .error error ↔
    (4096 : Int) - base < rom.length ∧ error = { size := rom.length, room := 4096 - base }
  /-- a refusal leaves the emulator as it was -/
  refused : ∀ error, e.load rom base = .error error → e.after (.load rom base) = e
  loaded : (rom.length : Int) ≤ 4096 - base → ∃ later, e.load rom base = .ok later ∧
    e.after (.load rom base) = later ∧ later.IsLoaded e rom base

theorem isLoaded_of_le {e : Emulator ρ} {rom : List UInt8} {base : Int} (hbase : 0 ≤ base)
    (hfit : (rom.length : Int) ≤ Machine.room base) :
    ∃ later, e.load rom base = .ok later ∧ later.IsLoaded e rom base := by
  have hend : base + rom.length ≤ 4096 := by
    unfold Machine.room memorySize at hfit
    omega
  exact ⟨_, e.load_eq_ok hfit,
    { block := e.machine.memory.readBlock_load base (by omega)
      outside := fun _ hplace houtside =>
        e.machine.memory.read_load_of_outside hbase hend hplace houtside
      pc := rfl
      others := rfl }⟩

/-- Whatever state an emulator is in, it loads a ROM whole or not at all, and memory takes every
block that is not longer than it. -/
theorem loadsWhole_and_takesBlock [RandomSource ρ] (e : Emulator ρ) (rom : List UInt8) (base : Int)
    (hbase : 0 ≤ base ∧ base ≤ 0xFFF) (m : Memory) (address : Int) (bytes : List UInt8)
    (hfit : bytes.length ≤ 4096) : e.LoadsWhole rom base ∧ m.TakesBlock address bytes := by
  refine ⟨?_, m.takesBlock address hfit⟩
  exact
    { refused_iff := fun _ => e.load_eq_error_iff
      refused := fun _ hload => after_load_of_eq_error hload
      loaded := by
        intro hshort
        obtain ⟨later, hload, hloaded⟩ := isLoaded_of_le (e := e) hbase.1 hshort
        exact ⟨later, hload, after_load_of_eq_ok hload, hloaded⟩ }

/-- A ROM of two bytes that ends at the last cell, and a block that wraps around into the glyphs. -/
theorem loadsWhole_and_takesBlock_atEnd :
    ((0 : Int) ≤ 0xFFE ∧ (0xFFE : Int) ≤ 0xFFF) ∧ [(1 : UInt8), 2, 3].length ≤ 4096 ∧
      (initial {} (Tape.ofList [7])).LoadsWhole [0x12, 0x00] 0xFFE ∧
      Memory.initial.TakesBlock (-2) [1, 2, 3] :=
  ⟨by decide, by decide, loadsWhole_and_takesBlock (initial {} (Tape.ofList [7])) [0x12, 0x00] 0xFFE
    (by decide) Memory.initial (-2) [1, 2, 3] (by decide)⟩

end Emulator

end Chip8
