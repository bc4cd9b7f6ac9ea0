/-
# Blocks of memory

Storing a block writes each of its bytes at its distance from the first address, around the end of
memory if need be, and no other cell.
-/

import Chip8.Memory.Basic
import Chip8.Proofs.Wrapping

namespace Chip8

@[simp] theorem cellOf_val (a : Address) : cellOf (a.val : Int) = a := by
  simp only [cellOf, Fin.ext_iff]
  omega

theorem val_cellOf {address : Int} (haddress : 0 ≤ address ∧ address ≤ 0xFFF) :
    ((cellOf address).val : Int) = address := by
  simp only [cellOf]
  omega

/-- Addresses name the same cell if they are the same up to wrapping. -/
theorem cellOf_eq_iff (address other : Int) :
    cellOf address = cellOf other ↔ address % 4096 = other % 4096 := by
  simp only [cellOf, Fin.ext_iff]
  omega

namespace Memory

theorem read_val (m : Memory) (a : Address) : m.read a = m.cells[a] := by
  simp only [read, cellOf_val]

theorem ext_read {m m' : Memory} (hcells : ∀ a : Address, m.read a = m'.read a) :
    m = m' := by
  obtain ⟨cells⟩ := m
  obtain ⟨cells'⟩ := m'
  refine congrArg Memory.mk (Vector.ext fun k hk => ?_)
  have hcell := hcells ⟨k, hk⟩
  rwa [Memory.read_val, Memory.read_val] at hcell

/-- Addresses that are the same up to wrapping read the same byte. -/
theorem read_congr (m : Memory) {address other : Int} (hsame : address % 4096 = other % 4096) :
    m.read address = m.read other := by
  simp only [read, (cellOf_eq_iff address other).2 hsame]

/-- A block may start at the cell that its address names. -/
theorem readBlock_cellOf (m : Memory) (address : Int) (count : Nat) :
    m.readBlock (cellOf address).val count = m.readBlock address count := by
  refine List.map_congr_left fun k _ => m.read_congr ?_
  simp only [cellOf]
  omega

/-- A block that fits into memory is stored byte by byte, and every other cell keeps its byte. -/
theorem read_load (m : Memory) (address place : Int) {bytes : List UInt8}
    (hfit : bytes.length ≤ 4096) :
    (m.load address bytes).read place =
      (bytes[offset 4096 address place]?).getD (m.read place) := by
  induction bytes generalizing m address with
  | nil => rfl
  | cons b rest ih =>
    rw [List.length_cons] at hfit
    have hfirst : place % 4096 = address % 4096 ↔ offset 4096 address place = 0 := by
      simpa using @emod_eq_add_iff 4096 0 (by omega) address place
    rw [load, ih _ _ (by omega), offset_add_one (by omega)]
    by_cases hoffset : offset 4096 address place = 0
    · have hbeyond : rest[4096 - 1]? = none := List.getElem?_eq_none (by omega)
      rw [if_pos hoffset, hbeyond, Option.getD_none, hoffset, read_congr _ (hfirst.2 hoffset),
        read_write_self]
      rfl
    · obtain ⟨k, hk⟩ := Nat.exists_eq_succ_of_ne_zero hoffset
      have hother : cellOf address ≠ cellOf place := fun hsame =>
        hoffset (hfirst.1 ((cellOf_eq_iff address place).1 hsame).symm)
      rw [if_neg hoffset, hk, Nat.succ_sub_one, List.getElem?_cons_succ,
        read_write_of_ne m b hother]

/-- Each byte of a block that is stored stands at its distance from the first address. -/
theorem read_load_add (m : Memory) (address : Int) {bytes : List UInt8}
    (hfit : bytes.length ≤ 4096) {k : Nat} {b : UInt8} (hk : bytes[k]? = some b) :
    (m.load address bytes).read (address + k) = b := by
  have hlt : k < bytes.length := (List.getElem?_eq_some_iff.1 hk).1
  have hoffset : offset 4096 address (address + k) = k :=
    (emod_eq_add_iff (by omega) address (address + k)).1 rfl
  rw [read_load m address _ hfit, hoffset, hk, Option.getD_some]

/-- A cell beyond the end of a block that is stored keeps its byte. -/
theorem read_load_of_le_offset (m : Memory) {address place : Int} {bytes : List UInt8}
    (hfit : bytes.length ≤ 4096) (hbeyond : bytes.length ≤ offset 4096 address place) :
    (m.load address bytes).read place = m.read place := by
  rw [read_load m address place hfit, List.getElem?_eq_none hbeyond, Option.getD_none]

/-- A cell that no byte of a block goes to keeps its byte. -/
theorem read_load_of_forall_ne (m : Memory) {address place : Int} {bytes : List UInt8}
    (hfit : bytes.length ≤ 4096)
    (hother : ∀ k : Nat, k < bytes.length → (address + k) % 4096 ≠ place % 4096) :
    (m.load address bytes).read place = m.read place :=
  m.read_load_of_le_offset hfit <| Nat.le_of_not_lt fun hlt =>
    hother _ hlt (@add_offset_emod 4096 (by omega) address place)

/-- A block that does not reach the end of memory leaves the bytes in front of it alone as well as
those behind it. -/
theorem read_load_of_outside (m : Memory) {address place : Int} {bytes : List UInt8}
    (haddress : 0 ≤ address) (hend : address + bytes.length ≤ 4096)
    (hplace : 0 ≤ place ∧ place < 4096)
    (houtside : place < address ∨ address + bytes.length ≤ place) :
    (m.load address bytes).read place = m.read place := by
  refine m.read_load_of_forall_ne (by omega) fun k hk => ?_
  omega

@[simp] theorem length_readBlock (m : Memory) (address : Int) (count : Nat) :
    (m.readBlock address count).length = count := by
  simp [readBlock]

/-- A block is read in two parts, one behind the other. -/
theorem readBlock_add (m : Memory) (address : Int) (first second : Nat) :
    m.readBlock address (first + second) =
      m.readBlock address first ++ m.readBlock (address + first) second := by
  have hplace : ∀ k : Nat, address + ((first + k : Nat) : Int) = address + first + k := by
    intro k
    omega
  simp only [readBlock, List.range_add, List.map_append, List.map_map, Function.comp_def, hplace]

/-- A word is the two bytes of its block. -/
theorem readWord_of_readBlock {m : Memory} {address : Int} {high low : UInt8}
    (hblock : m.readBlock address 2 = [high, low]) : m.readWord address = wordOfBytes high low := by
  have hbytes : m.readBlock address 2 = [m.read (address + 0), m.read (address + 1)] := rfl
  rw [hbytes, Int.add_zero] at hblock
  obtain ⟨hhigh, hlow⟩ := List.cons.inj hblock
  rw [readWord, hhigh, List.singleton_inj.1 hlow]

/-- What has been stored is read back, also around the end of memory. -/
theorem readBlock_load (m : Memory) (address : Int) {bytes : List UInt8}
    (hfit : bytes.length ≤ 4096) :
    (m.load address bytes).readBlock address bytes.length = bytes := by
  refine List.ext_getElem (length_readBlock _ _ _) fun k hk hk' => ?_
  rw [← m.read_load_add address hfit (List.getElem?_eq_getElem hk')]
  simp [readBlock]

/-- A part of what has been stored is read back at its distance from the start. -/
theorem readBlock_load_append (m : Memory) (address : Int) {front block back : List UInt8}
    (hfit : (front ++ (block ++ back)).length ≤ 4096) :
    (m.load address (front ++ (block ++ back))).readBlock (address + front.length) block.length =
      block := by
  have hwhole := m.readBlock_load address hfit
  rw [List.length_append, List.length_append, readBlock_add, readBlock_add] at hwhole
  have hrest := (List.append_inj hwhole (length_readBlock _ _ _)).2
  exact (List.append_inj hrest (length_readBlock _ _ _)).1

end Memory

end Chip8
