/-
# Registers stored in memory

Two instructions store bytes from the index on: one the registers up to a given one, the other the
decimal digits of a register. A third loads the registers from there. Addresses wrap, so behind the
last cell of memory the bytes go on at the glyphs. They are fewer than the cells of memory, so no
byte is stored over another one, and what has been stored can be loaded again.
-/

import Chip8.Proofs.Emulator.Steps
import Chip8.Proofs.Machine.Bytes
import Chip8.Proofs.Machine.Ranges
import Chip8.Proofs.Memory.Blocks

namespace Chip8

open scoped Sizes

namespace Registers

/-- The values of the registers up to `last`. -/
def valuesUpTo (r : Registers) (last : Reg) : List Int := r.v.toList.take (last + 1)

theorem getElem?_valuesUpTo (r : Registers) {x last : Reg} (hx : x ≤ last) :
    (r.valuesUpTo last)[(x : Nat)]? = some (r.get x) := by
  have hlt : (x : Nat) < last + 1 := Nat.lt_succ_of_le hx
  rw [valuesUpTo, List.getElem?_take_of_lt hlt]
  simp [get]

/-- Of registers in range, the bytes are the values. -/
theorem map_bytesUpTo {r : Registers} (hrange : r.InRange) (last : Reg) :
    ((r.bytesUpTo last).map fun b => (b.toNat : Int)) = r.valuesUpTo last := by
  have hvalue : ∀ value ∈ r.valuesUpTo last, ((UInt8.ofInt value).toNat : Int) = value := by
    intro value hmem
    obtain ⟨k, hk, rfl⟩ := List.mem_iff_getElem.1 (List.mem_of_mem_take hmem)
    exact toNat_ofInt (hrange.v ⟨k, by simpa using hk⟩)
  rw [bytesUpTo, List.map_map]
  exact (List.map_congr_left hvalue).trans (List.map_id _)

end Registers

/-- A byte has three decimal digits, which give it back. -/
theorem Arithmetic.decimalDigits_eq {a : Int} (ha : 0 ≤ a ∧ a ≤ 0xFF) :
    ∃ h t o : Nat, decimalDigits a = [h, t, o] ∧ h ≤ 9 ∧ t ≤ 9 ∧ o ≤ 9 ∧
      (100 * h + 10 * t + o : Int) = a := by
  have hbyte := lowByte_of_le ha
  exact ⟨_, _, _, rfl, by omega, by omega, by omega, by omega⟩

namespace Emulator

variable {ρ : Type} [RandomSource ρ]

/-- The next step stores values in the cells from the index on. Of the rest, only the program
counter changes. -/
structure StoresAtIndex (e : Emulator ρ) (values : List Int) : Prop where
  executed : e.step.1 = .executed
  stored : ∀ (k : Nat) (value : Int), values[k]? = some value →
    ((e.step.2.machine.memory.read ((e.machine.registers.index + k) % 4096)).toNat : Int) = value
  kept : ∀ a : Address,
    (∀ k : Nat, k < values.length → (e.machine.registers.index + k) % 4096 ≠ a) →
      e.step.2.machine.memory.read a = e.machine.memory.read a
  others : e.step.2.machine = { e.machine with
    memory := e.step.2.machine.memory
    registers := { e.machine.registers with pc := followingAddress e.pc } }

/-- The next step loads the registers up to `x` from the cells from the index on. Of the rest, only
the program counter changes. -/
structure LoadsFromIndex (e : Emulator ρ) (x : Reg) : Prop where
  executed : e.step.1 = .executed
  loaded : ∀ r ≤ x, e.step.2.machine.registers.get r =
    (e.machine.memory.read ((e.machine.registers.index + (r : Nat)) % 4096)).toNat
  kept : ∀ r > x, e.step.2.machine.registers.get r = e.machine.registers.get r
  others : e.step.2.machine = { e.machine with registers := { e.machine.registers with
    v := e.step.2.machine.registers.v, pc := followingAddress e.pc } }

/-- The emulator is at an instruction that loads the registers up to `x`, and `source` has the same
index and the same bytes in the cells from there on. -/
structure ReadyToLoad (e source : Emulator ρ) (x : Reg) : Prop where
  free : e.machine.waiting = false
  current : e.machine.current = .loadRegs x
  index : e.machine.registers.index = source.machine.registers.index
  cells : ∀ r ≤ x,
    e.machine.memory.read ((source.machine.registers.index + (r : Nat)) % 4096) =
      source.machine.memory.read ((source.machine.registers.index + (r : Nat)) % 4096)

/-- What the next step does if it stores registers or digits, and what a later one does that loads
the registers again. -/
structure TransfersRegisters (e : Emulator ρ) : Prop where
  stores : ∀ x, e.machine.current = .storeRegs x →
    e.StoresAtIndex (e.machine.registers.valuesUpTo x)
  /-- whatever has been done between the two -/
  restores : ∀ x, e.machine.current = .storeRegs x → ∀ later : Emulator ρ,
    later.ReadyToLoad e.step.2 x → later.LoadsFromIndex x ∧
      ∀ r ≤ x, later.step.2.machine.registers.get r = e.machine.registers.get r
  digits : ∀ x, e.machine.current = .storeDigits x →
    ∃ h t o : Nat, e.StoresAtIndex [(h : Int), t, o] ∧ h ≤ 9 ∧ t ≤ 9 ∧ o ≤ 9 ∧
      (100 * h + 10 * t + o : Int) = e.machine.registers.get x

section Steps

variable {e : Emulator ρ} (hfree : e.machine.waiting = false)
include hfree

/-- Storing a block that fits into memory stores the number of each byte. -/
theorem storesAtIndex {i : Instruction} {bytes : List UInt8} (hcurrent : e.machine.current = i)
    (hexecute : e.machine.execute i = .ok (e.machine.storeAtIndex bytes))
    (hfit : bytes.length ≤ 4096) : e.StoresAtIndex (bytes.map fun b => (b.toNat : Int)) := by
  have hstep := step_of_current hfree hcurrent hexecute
  have hmemory : e.step.2.machine.memory =
      e.machine.memory.load e.machine.registers.index bytes := by
    rw [hstep]
    rfl
  refine { executed := by rw [hstep], stored := ?_, kept := ?_, others := by rw [hstep]; rfl }
  · intro k value hvalue
    rw [List.getElem?_map, Option.map_eq_some_iff] at hvalue
    obtain ⟨b, hb, rfl⟩ := hvalue
    rw [Memory.read_congr _ (Int.emod_emod _ _), hmemory, Memory.read_load_add _ _ hfit hb]
  · intro a hother
    rw [List.length_map] at hother
    rw [hmemory]
    refine Memory.read_load_of_forall_ne _ hfit fun k hk hsame => hother k hk ?_
    omega

theorem loadsFromIndex {x : Reg} (hcurrent : e.machine.current = .loadRegs x) :
    e.LoadsFromIndex x := by
  have hexecute : e.machine.execute (.loadRegs x) =
      .ok (e.machine.withRegisters (e.machine.registers.loadFrom e.machine.memory x)) := rfl
  have hstep := step_of_current hfree hcurrent hexecute
  have hvalue (r : Reg) : e.step.2.machine.registers.get r =
      if r ≤ x then ((e.machine.memory.read (e.machine.registers.index + r)).toNat : Int)
      else e.machine.registers.get r := by
    rw [hstep]
    exact (Registers.get_advance _ r).trans (Registers.get_loadFrom _ _ _ _)
  exact
    { executed := by rw [hstep]
      loaded := fun r hr => by
        rw [hvalue, if_pos hr, Memory.read_congr _ (Int.emod_emod _ _)]
      kept := fun r hr => by rw [hvalue, if_neg (Fin.not_le.2 hr)]
      others := by
        rw [hstep, Registers.loadFrom_eq]
        rfl }

end Steps

section Transfers

variable {e : Emulator ρ} (hrange : e.machine.registers.InRange)
  (hfree : e.machine.waiting = false) {x : Reg}
include hrange hfree

theorem storesAtIndex_of_storeRegs (hcurrent : e.machine.current = .storeRegs x) :
    e.StoresAtIndex (e.machine.registers.valuesUpTo x) := by
  have hfit : (e.machine.registers.bytesUpTo x).length ≤ 4096 := by
    rw [Registers.length_bytesUpTo]
    omega
  rw [← Registers.map_bytesUpTo hrange]
  exact storesAtIndex hfree hcurrent rfl hfit

theorem storesAtIndex_of_storeDigits (hcurrent : e.machine.current = .storeDigits x) :
    ∃ h t o : Nat, e.StoresAtIndex [(h : Int), t, o] ∧ h ≤ 9 ∧ t ≤ 9 ∧ o ≤ 9 ∧
      (100 * h + 10 * t + o : Int) = e.machine.registers.get x := by
  obtain ⟨h, t, o, hdigits, hh, ht, ho, hsum⟩ := Arithmetic.decimalDigits_eq (hrange.v x)
  have hexecute : e.machine.execute (.storeDigits x) =
      .ok (e.machine.storeAtIndex ([h, t, o].map UInt8.ofNat)) := by
    rw [← hdigits]
    rfl
  have hstores := storesAtIndex hfree hcurrent hexecute (by simp)
  have hnumber {d : Nat} (hd : d ≤ 9) : (UInt8.ofNat d).toNat = d := by
    rw [UInt8.toNat_ofNat']
    omega
  simp only [List.map_cons, List.map_nil, hnumber hh, hnumber ht, hnumber ho] at hstores
  exact ⟨h, t, o, hstores, hh, ht, ho, hsum⟩

/-- The registers that have been stored are loaded from the same cells. -/
theorem restores (hcurrent : e.machine.current = .storeRegs x) {later : Emulator ρ}
    (hready : later.ReadyToLoad e.step.2 x) {r : Reg} (hr : r ≤ x) :
    later.step.2.machine.registers.get r = e.machine.registers.get r := by
  have hstores := storesAtIndex_of_storeRegs hrange hfree hcurrent
  have hindex : e.step.2.machine.registers.index = e.machine.registers.index := by
    rw [hstores.others]
  have hcell := hready.cells r hr
  have hloaded := (loadsFromIndex hready.free hready.current).loaded r hr
  rw [hindex] at hcell
  rw [hloaded, hready.index, hindex, hcell]
  exact hstores.stored r _ (Registers.getElem?_valuesUpTo _ hr)

end Transfers

/-- From registers in range, the registers and the digits of a register are stored exactly, and the
registers are restored by loading them. -/
theorem transfersRegisters {e : Emulator ρ} (hrange : e.machine.registers.InRange)
    (hfree : e.machine.waiting = false) : e.TransfersRegisters where
  stores _ := storesAtIndex_of_storeRegs hrange hfree
  restores _ hcurrent _ hready :=
    ⟨loadsFromIndex hready.free hready.current, fun _ => restores hrange hfree hcurrent hready⟩
  digits _ := storesAtIndex_of_storeDigits hrange hfree

/-- A machine that stores `V0` in the last cell and `V1` at the bottom of memory, clears `V0` and
loads both registers again. -/
def storeOverEnd : Emulator Tape :=
  let e := initial { stackLimit := some 2 } (Tape.ofList [7])
  { e with machine := { e.machine with
      registers := { (e.machine.registers.set 0 17).set 1 254 with index := 0xFFFF }
      memory := e.machine.memory.load 0x200 [0xF1, 0x55, 0x60, 0x00, 0xF1, 0x65] } }

theorem transfersRegisters_storeOverEnd :
    let later := (steps 2 storeOverEnd).2
    storeOverEnd.machine.current = .storeRegs 1 ∧ storeOverEnd.TransfersRegisters ∧
      storeOverEnd.step.2.machine.memory.read 0 = 254 ∧
      later.ReadyToLoad storeOverEnd.step.2 1 ∧ later.machine.registers.get 0 = 0 ∧
      later.step.2.machine.registers.get 0 = 17 := by
  have hrange : storeOverEnd.machine.registers.InRange :=
    (((Registers.inRange_initial (some 2)).set 0 (by decide)).set 1 (by decide)).withIndex
      (by decide)
  have hcurrent : storeOverEnd.machine.current = .storeRegs 1 := by decide +kernel
  have hready : (steps 2 storeOverEnd).2.ReadyToLoad storeOverEnd.step.2 1 :=
    ⟨by decide +kernel, by decide +kernel, by decide +kernel, by decide +kernel⟩
  have htransfers := transfersRegisters hrange rfl
  exact ⟨hcurrent, htransfers, by decide +kernel, hready, by decide +kernel,
    ((htransfers.restores 1 hcurrent _ hready).2 0 (by decide)).trans (by decide +kernel)⟩

end Emulator

end Chip8
