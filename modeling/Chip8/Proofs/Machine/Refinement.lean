/-
# The machine refines the reference

`Machine.view` reads a machine as a state of the reference. On machines whose registers are in
range nothing is lost by it. Every operation of the machine has its counterpart under the view, and
put together they show that an instruction does to the machine what the reference says about the
nibbles of its word.
-/

import Chip8.Proofs.Display.Pixels
import Chip8.Proofs.Instruction.Words
import Chip8.Proofs.Machine.Bytes
import Chip8.Proofs.Machine.Ranges
import Chip8.Proofs.Machine.Reference
import Chip8.Proofs.Memory.Blocks

namespace Chip8

/-- The address of the following instruction is two cells further on. -/
theorem cellOf_followingAddress (address : Int) :
    cellOf (followingAddress address) = cellOf address + 2 := by
  simp only [cellOf, followingAddress, Fin.ext_iff, Fin.val_add]
  omega

/-- Keypads with the same keys down are the same. -/
theorem Keypad.ext_isPressed {p p' : Keypad}
    (hkeys : ∀ key : Nibble, p.isPressed key = p'.isPressed key) : p = p' := by
  obtain ⟨down⟩ := p
  obtain ⟨down'⟩ := p'
  refine congrArg Keypad.mk (Vector.ext fun k hk => ?_)
  have hdown := hkeys ⟨k, hk⟩
  rwa [Keypad.isPressed_key, Keypad.isPressed_key] at hdown

/-- Registers that read the same in every part are the same. -/
theorem Registers.ext_get {r r' : Registers} (hv : ∀ x, r.get x = r'.get x)
    (hindex : r.index = r'.index) (hpc : r.pc = r'.pc) (hstack : r.stack = r'.stack)
    (hwait : r.keyWait = r'.keyWait) (hlimit : r.stackLimit = r'.stackLimit) : r = r' := by
  obtain ⟨v, _, _, _, _, _⟩ := r
  obtain ⟨v', _, _, _, _, _⟩ := r'
  obtain rfl : v = v' := Vector.ext fun k hk => hv ⟨k, hk⟩
  obtain rfl := hindex
  obtain rfl := hpc
  obtain rfl := hstack
  obtain rfl := hwait
  obtain rfl := hlimit
  rfl

namespace Machine

variable {ρ : Type}

/-- The machine as a state of the reference. -/
def view (m : Machine ρ) : Reference.State ρ :=
  { v := fun x => UInt8.ofInt (m.registers.get x)
    index := UInt16.ofInt m.registers.index
    pc := cellOf m.registers.pc
    stack := m.registers.stack.map cellOf
    keyWait := m.registers.keyWait
    stackLimit := m.registers.stackLimit
    memory := fun address => m.memory.read address
    screen := fun column row => m.screen.get column row
    delay := m.timers.delay
    sound := m.timers.sound
    keys := fun key => m.keypad.isPressed key
    random := m.random }

section Readings

variable {m : Machine ρ} (hr : m.registers.InRange)
include hr

/-- A register in range holds the number of the byte that is seen. -/
theorem get_eq (x : Reg) : m.registers.get x = (m.view.v x).toNat := (toNat_ofInt (hr.v x)).symm

theorem index_eq : m.registers.index = m.view.index.toNat := (toNat_ofInt16 hr.index).symm

theorem pc_eq : m.registers.pc = m.view.pc.val := (val_cellOf hr.pc).symm

theorem stack_eq : m.registers.stack = m.view.stack.map fun a => (a.val : Int) := by
  rw [view, List.map_map]
  refine (List.map_congr_left fun address hmem => ?_).trans (List.map_id _) |>.symm
  exact val_cellOf (hr.stack address hmem)

end Readings

/-- Of a machine whose registers are in range, the view loses nothing. -/
theorem view_injective {m m' : Machine ρ} (hr : m.registers.InRange) (hr' : m'.registers.InRange)
    (hview : m.view = m'.view) : m = m' := by
  have hregisters : m.registers = m'.registers :=
    Registers.ext_get (fun x => by rw [get_eq hr, get_eq hr', hview])
      (by rw [index_eq hr, index_eq hr', hview]) (by rw [pc_eq hr, pc_eq hr', hview])
      (by rw [stack_eq hr, stack_eq hr', hview]) (congrArg Reference.State.keyWait hview)
      (congrArg Reference.State.stackLimit hview)
  have hmemory : m.memory = m'.memory :=
    Memory.ext_read fun a => congrFun (congrArg Reference.State.memory hview) a
  have hscreen : m.screen = m'.screen := by
    apply Display.ext_get
    intro px py
    have hpixel := congrFun (congrFun (congrArg Reference.State.screen hview)
      ⟨(px % 64).toNat, by omega⟩) ⟨(py % 32).toNat, by omega⟩
    have hcolumn : (((px % 64).toNat : Nat) : Int) % (64 : Nat) = px % (64 : Nat) := by omega
    have hrow : (((py % 32).toNat : Nat) : Int) % (32 : Nat) = py % (32 : Nat) := by omega
    exact (m.screen.get_congr hcolumn hrow).symm.trans
      (hpixel.trans (m'.screen.get_congr hcolumn hrow))
  have hkeypad : m.keypad = m'.keypad :=
    Keypad.ext_isPressed fun key => congrFun (congrArg Reference.State.keys hview) key
  have hdelay : m.timers.delay = m'.timers.delay := congrArg Reference.State.delay hview
  have hsound : m.timers.sound = m'.timers.sound := congrArg Reference.State.sound hview
  have hrandom : m.random = m'.random := congrArg Reference.State.random hview
  obtain ⟨_, _, _, ⟨_, _⟩, _, _⟩ := m
  obtain ⟨_, _, _, ⟨_, _⟩, _, _⟩ := m'
  simp_all

section Views

variable (m : Machine ρ) (r : Registers)

theorem view_advance :
    { m with registers := r.advance }.view = { m with registers := r }.view.next := by
  ext1
  case pc => exact cellOf_followingAddress r.pc
  all_goals rfl

theorem view_advanceSkipping (skip : Bool) :
    { m with registers := r.advanceSkipping skip }.view =
      { m with registers := r }.view.skipIf skip := by
  cases skip
  · exact view_advance m r
  · exact (view_advance m r.advance).trans (congrArg _ (view_advance m r))

theorem view_set (x : Reg) (value : Int) :
    { m with registers := r.set x value }.view =
      { m with registers := r }.view.put x (UInt8.ofInt value) := by
  ext1
  case v =>
    funext z
    simp only [view, Reference.State.put, Registers.get_set, eq_comm (a := x)]
    exact apply_ite UInt8.ofInt _ _ _
  all_goals rfl

theorem view_setFlag (flag : Bool) :
    { m with registers := r.setFlag flag }.view =
      { m with registers := r }.view.putFlag flag := by
  refine (view_set m r Registers.flagReg _).trans ?_
  cases flag <;> rfl

theorem view_setWithFlag (x : Reg) (result : Int × Bool) :
    { m with registers := r.setWithFlag x result }.view =
      ({ m with registers := r }.view.put x (UInt8.ofInt result.1)).putFlag result.2 := by
  rw [Registers.setWithFlag, view_setFlag, view_set]

theorem view_withRegisters : (m.withRegisters r).view = { m with registers := r }.view.next :=
  view_advance m r

theorem view_skipIf (skip : Bool) : (m.skipIf skip).view = m.view.skipIf skip :=
  view_advanceSkipping m m.registers skip

end Views

section Blocks

variable {m : Machine ρ} (hr : m.registers.InRange)
include hr

/-- A cell lies as far behind the index as its address tells. -/
theorem offset_index (address : Address) :
    offset 4096 m.registers.index address = m.view.distance address := by
  rw [index_eq hr]
  simp only [offset, Reference.State.distance, Fin.sub_def, Fin.ofNat]
  omega

theorem read_index_add (k : Nat) :
    m.memory.read (m.registers.index + k) = m.view.memory (m.view.behindIndex k) := by
  rw [index_eq hr]
  refine m.memory.read_congr ?_
  simp only [Reference.State.behindIndex, Fin.ofNat]
  omega

/-- A block that is stored at the index is seen there. -/
theorem view_storeAtIndex {bytes : List UInt8} (hfit : bytes.length ≤ 4096) :
    (m.storeAtIndex bytes).view = (m.view.store bytes).next := by
  refine (view_advance { m with memory := m.memory.load m.registers.index bytes }
    m.registers).trans (congrArg _ ?_)
  ext1
  case memory =>
    funext address
    exact (m.memory.read_load _ _ hfit).trans (by rw [offset_index hr]; rfl)
  all_goals rfl

/-- Registers that are loaded from the index are seen with the bytes behind it. -/
theorem view_loadFrom (x : Reg) :
    { m with registers := m.registers.loadFrom m.memory x }.view =
      { m.view with v := fun z =>
          if z ≤ x then m.view.memory (m.view.behindIndex z) else m.view.v z } := by
  ext1
  case v =>
    funext z
    simp only [← read_index_add hr]
    simp only [view, Registers.get_loadFrom]
    rw [apply_ite UInt8.ofInt, ofInt_toNat]
  all_goals simp only [view, Registers.loadFrom]

/-- The pixels that a sprite at the index inverts are the dots of the reference. -/
theorem dots_eq_inked (x y : Reg) (n : Nibble) (column : Fin 64) (row : Fin 32) :
    Display.dots 64 32 (m.registers.get x) (m.registers.get y)
      (m.memory.readBlock m.registers.index n) column row = m.view.inked x y n column row := by
  have hheight : (m.memory.readBlock m.registers.index n).length ≤ 32 := by
    simp [Memory.readBlock]
    omega
  have hacross : offset 64 (m.registers.get x) column =
      (column - Fin.ofNat 64 (m.view.v x).toNat).val := by
    rw [get_eq hr]
    simp only [offset, Fin.sub_def, Fin.ofNat]
    omega
  have hdown : offset 32 (m.registers.get y) row =
      (row - Fin.ofNat 32 (m.view.v y).toNat).val := by
    rw [get_eq hr]
    simp only [offset, Fin.sub_def, Fin.ofNat]
    omega
  rw [Display.dots_eq hheight, hdown]
  simp only [Reference.State.inked, Display.rowDot, hacross, ← read_index_add hr]
  generalize (row - Fin.ofNat 32 (m.view.v y).toNat).val = down
  by_cases hdown : down < n.val
  · simp [Memory.readBlock, hdown]
  · simp [Memory.readBlock, hdown]

theorem collides_iff (x y : Reg) (n : Nibble) :
    m.view.collides x y n = true ↔ ∃ px py : Int, m.screen.get px py = true ∧
      Display.dots 64 32 (m.registers.get x) (m.registers.get y)
        (m.memory.readBlock m.registers.index n) px py = true := by
  rw [Reference.State.collides, decide_eq_true_eq]
  constructor
  · rintro ⟨column, row, hon, hinked⟩
    exact ⟨column, row, hon, (dots_eq_inked hr x y n column row).trans hinked⟩
  · rintro ⟨px, py, hon, hdots⟩
    let column : Fin 64 := ⟨(px % 64).toNat, by omega⟩
    let row : Fin 32 := ⟨(py % 32).toNat, by omega⟩
    have hcolumn : (column.val : Int) % 64 = px % 64 := by simp only [column]; omega
    have hrow : (row.val : Int) % 32 = py % 32 := by simp only [row]; omega
    refine ⟨column, row, ?_, ?_⟩
    · exact (m.screen.get_congr hcolumn hrow).trans hon
    · rw [← dots_eq_inked hr x y n column row, ← hdots]
      exact Display.dots_congr _ _ _ hcolumn hrow

/-- A sprite that is drawn is seen as the reference draws it. -/
theorem view_drawSprite (x y : Reg) (n : Nibble) :
    (m.drawSprite x y n).map view =
      .ok ((m.view.draw x y n).putFlag (m.view.collides x y n)).next := by
  have hx := hr.v x
  have hcolumns := Display.spriteColumns_eq (x := m.registers.get x)
    (Word.holds_of_le (by omega) (by omega)) (Word.holds_of_le (by omega) (by omega))
  have hheight : (m.memory.readBlock m.registers.index n).length ≤ 32 := by
    simp [Memory.readBlock]
    omega
  rw [drawSprite_eq_ok hr, hcolumns]
  simp only [Except.map]
  generalize hdrawn : Display.drawRows _ _ _ _ = drawn
  have hscreen : { m with screen := drawn.1 }.view = m.view.draw x y n := by
    ext1
    case screen =>
      funext column row
      simp only [view, ← hdrawn]
      rw [Display.get_drawRows (by omega) (by omega), dots_eq_inked hr]
      rfl
    all_goals rfl
  have hflag : drawn.2 = m.view.collides x y n := by
    rw [Bool.eq_iff_iff, collides_iff hr, ← hdrawn]
    exact Display.drawRows_collision (by omega) m.screen _ _ hheight
  rw [← hscreen, ← hflag]
  exact congrArg Except.ok ((view_advance { m with screen := drawn.1 } _).trans
    (congrArg Reference.State.next (view_setFlag { m with screen := drawn.1 } _ _)))

end Blocks

section Instructions

variable [RandomSource ρ] {m : Machine ρ}

theorem view_execute_cls :
    (m.execute .cls).map view = .ok { m.view with screen := fun _ _ => false }.next := by
  have hblank : { m with screen := Display.blank 64 32 }.view =
      { m.view with screen := fun _ _ => false } := by
    ext1
    case screen =>
      funext column row
      simp only [view, Display.blank, Display.get, Vector.getElem?_replicate]
      split <;> rfl
    all_goals rfl
  rw [← hblank]
  exact congrArg Except.ok (view_advance { m with screen := Display.blank 64 32 } m.registers)

theorem view_execute_jp (nnn : Address) :
    (m.execute (.jp nnn)).map view = .ok { m.view with pc := nnn } := by
  have hpc : { m with registers := { m.registers with pc := nnn } }.view =
      { m.view with pc := nnn } := by
    ext1
    case pc => exact cellOf_val nnn
    all_goals rfl
  exact congrArg Except.ok hpc

theorem view_execute_ldIndex (nnn : Address) :
    (m.execute (.ldIndex nnn)).map view =
      .ok { m.view with index := UInt16.ofNat nnn }.next := by
  have hindex : UInt16.ofInt (nnn.val : Int) = UInt16.ofNat nnn.val := by
    rw [← UInt16.toNat_inj, UInt16.ofInt, UInt16.toNat_ofNat', UInt16.toNat_ofNat']
    omega
  rw [← hindex]
  exact congrArg Except.ok (view_withRegisters m _)

/-- The random byte is seen to be the next one, and the source to have given one byte. -/
theorem view_execute_rnd (x : Reg) (k : Nat) :
    (m.execute (.rnd x (eightBits k))).map view =
      .ok ({ m.view with random := (RandomSource.next m.random).2 }.put x
        ((RandomSource.next m.random).1 &&& UInt8.ofNat k)).next := by
  have hbyte : UInt8.ofInt (Arithmetic.bitAnd (RandomSource.next m.random).1.toNat (eightBits k)) =
      (RandomSource.next m.random).1 &&& UInt8.ofNat k := by
    rw [val_eightBits, Arithmetic.ofInt_bitAnd]
  rw [← hbyte]
  let drawn : Machine ρ := { m with random := (RandomSource.next m.random).2 }
  exact congrArg Except.ok ((view_advance drawn _).trans
    (congrArg Reference.State.next (view_set drawn m.registers x _)))

theorem view_execute_setDelay (x : Reg) :
    (m.execute (.setDelay x)).map view = .ok { m.view with delay := m.view.v x }.next :=
  congrArg Except.ok
    (view_advance { m with timers := m.timers.setDelay (m.registers.get x) } m.registers)

theorem view_execute_setSound (x : Reg) :
    (m.execute (.setSound x)).map view = .ok { m.view with sound := m.view.v x }.next :=
  congrArg Except.ok
    (view_advance { m with timers := m.timers.setSound (m.registers.get x) } m.registers)

variable (hr : m.registers.InRange)
include hr

/-- A return is seen to go on behind the address on the call stack, if there is one. -/
theorem view_execute_ret :
    (m.execute .ret).map view =
      match m.view.stack with
      | address :: rest => .ok { m.view with stack := rest, pc := address }.next
      | [] => .error (.stackUnderflow m.view.pc.val) := by
  simp only [execute, Registers.pop]
  cases hstack : m.registers.stack with
  | nil =>
    have hseen : m.view.stack = [] := by simp [view, hstack]
    simp only [hseen, ← pc_eq hr, Except.map]
  | cons address rest =>
    have hseen : m.view.stack = cellOf address :: rest.map cellOf := by simp [view, hstack]
    simp only [hseen, Except.map, view_withRegisters]
    rfl

/-- A call is seen to go to its address, with its own address on the call stack, unless the call
stack has reached its limit. -/
theorem view_execute_call (nnn : Address) :
    (m.execute (.call nnn)).map view =
      match m.view.stackLimit with
      | some limit =>
        if limit ≤ m.view.stack.length then .error (.stackOverflow limit m.view.pc.val)
        else .ok { m.view with stack := m.view.pc :: m.view.stack, pc := nnn }
      | none => .ok { m.view with stack := m.view.pc :: m.view.stack, pc := nnn } := by
  have hcalled : { m with registers :=
      { m.registers with stack := m.registers.pc :: m.registers.stack, pc := nnn } }.view =
      { m.view with stack := m.view.pc :: m.view.stack, pc := nnn } := by
    ext1
    case pc => exact cellOf_val nnn
    all_goals rfl
  have hlength : m.view.stack.length = m.registers.stack.length := by simp [view]
  cases hlimit : m.view.stackLimit with
  | none =>
    have hroom : ∀ limit, m.registers.stackLimit = some limit →
        ¬ limit ≤ m.registers.stack.length := by
      intro limit hlimit'
      rw [show m.registers.stackLimit = none from hlimit] at hlimit'
      cases hlimit'
    have hpush := m.registers.push_of_not_full m.registers.pc hroom
    simp only [execute, hpush]
    exact congrArg Except.ok hcalled
  | some limit =>
    have hlimit : m.registers.stackLimit = some limit := hlimit
    simp only [hlength]
    split
    · rename_i hfull
      rw [← pc_eq hr]
      simp only [execute, m.registers.push_of_full m.registers.pc hlimit hfull, Except.map]
    · rename_i hfull
      have hroom : ∀ limit', m.registers.stackLimit = some limit' →
          ¬ limit' ≤ m.registers.stack.length := by
        intro limit' hlimit'
        obtain rfl := Option.some.inj (hlimit.symm.trans hlimit')
        exact hfull
      have hpush := m.registers.push_of_not_full m.registers.pc hroom
      simp only [execute, hpush]
      exact congrArg Except.ok hcalled

theorem view_execute_jpOffset (nnn : Address) :
    (m.execute (.jpOffset nnn)).map view =
      .ok { m.view with pc := Fin.ofNat 4096 (m.view.v 0).toNat + nnn } := by
  have hsum : cellOf ((m.registers.get Registers.offsetReg + nnn) % 4096) =
      Fin.ofNat 4096 (m.view.v 0).toNat + nnn := by
    rw [show Registers.offsetReg = 0 from rfl, get_eq hr]
    simp only [cellOf, Fin.ext_iff, Fin.val_add, Fin.ofNat]
    omega
  rw [← hsum]
  rfl

theorem view_execute_addIndex (x : Reg) :
    (m.execute (.addIndex x)).map view =
      .ok { m.view with index := m.view.index + (m.view.v x).toUInt16 }.next := by
  have hsum : UInt16.ofInt ((m.registers.index + m.registers.get x) % 65536) =
      m.view.index + (m.view.v x).toUInt16 := by
    rw [get_eq hr, index_eq hr, ← UInt16.toNat_inj, UInt16.ofInt, UInt16.toNat_ofNat',
      UInt16.toNat_add, UInt8.toNat_toUInt16]
    omega
  rw [← hsum]
  exact congrArg Except.ok (view_withRegisters m _)

theorem view_execute_ldGlyph (x : Reg) :
    (m.execute (.ldGlyph x)).map view =
      .ok { m.view with index := (m.view.v x &&& 0xF).toUInt16 * 5 }.next := by
  have hglyph : UInt16.ofInt (glyphAddress (m.registers.get x)) =
      (m.view.v x &&& 0xF).toUInt16 * 5 := by
    have hfive : (5 : UInt16).toNat = 5 := rfl
    rw [get_eq hr, ← UInt16.toNat_inj, UInt16.ofInt, UInt16.toNat_ofNat', UInt16.toNat_mul,
      UInt8.toNat_toUInt16, toNat_and_fifteen, hfive, glyphAddress, glyphSize]
    omega
  rw [← hglyph]
  exact congrArg Except.ok (view_withRegisters m _)

omit [RandomSource ρ] in
theorem isPressed_get (x : Reg) :
    m.keypad.isPressed (m.registers.get x) = m.view.keys (fourBits (m.view.v x).toNat) := by
  rw [get_eq hr]
  simp only [view, Keypad.isPressed, fourBits, Fin.ofNat]
  congr 2
  omega

omit [RandomSource ρ] hr in
theorem bytesUpTo_eq (x : Reg) :
    m.registers.bytesUpTo x = (List.range (x + 1)).map fun k => m.view.v (fourBits k) := by
  apply List.ext_getElem
  · rw [Registers.length_bytesUpTo, List.length_map, List.length_range]
  · intro k hk hk'
    have hlt : k < 16 := by
      rw [List.length_map, List.length_range] at hk'
      omega
    simp [Registers.bytesUpTo, view, Registers.get, fourBits, Nat.mod_eq_of_lt hlt]

theorem view_execute_storeDigits (x : Reg) :
    (m.execute (.storeDigits x)).map view =
      .ok (m.view.store [m.view.v x / 100, m.view.v x / 10 % 10, m.view.v x % 10]).next := by
  rw [← Arithmetic.ofNat_decimalDigits, ← get_eq hr]
  exact congrArg Except.ok (view_storeAtIndex hr (by simp [Arithmetic.decimalDigits]))

theorem view_execute_storeRegs (x : Reg) :
    (m.execute (.storeRegs x)).map view =
      .ok (m.view.store ((List.range (x + 1)).map fun k => m.view.v (fourBits k))).next := by
  rw [← bytesUpTo_eq]
  have hx := x.isLt
  refine congrArg Except.ok (view_storeAtIndex hr ?_)
  rw [Registers.length_bytesUpTo]
  omega

theorem view_execute_loadRegs (x : Reg) :
    (m.execute (.loadRegs x)).map view =
      .ok { m.view with v := fun z =>
          if z ≤ x then m.view.memory (m.view.behindIndex z) else m.view.v z }.next := by
  rw [← view_loadFrom hr]
  exact congrArg Except.ok (view_withRegisters m _)

/-- What an instruction does to the machine is what the reference says about the nibbles of its
word. -/
theorem view_execute (c x y n : Nibble) :
    (m.execute (Instruction.ofNibbles c x y n)).map view = m.view.perform c x y n := by
  have hx := get_eq hr x
  have hy := get_eq hr y
  have hnop : (m.execute .nop).map view = .ok m.view.next :=
    congrArg Except.ok (view_withRegisters m m.registers)
  -- The instruction and the reference branch on the same nibbles, so the cases are the classes.
  -- Classes `8`, `E` and `F` branch once more, and fall through at the same words.
  unfold Instruction.ofNibbles Reference.State.perform
  split <;> simp only []
  case h_1 =>
    split
    · exact view_execute_cls
    · split
      · exact view_execute_ret hr
      · exact hnop
  case h_2 => exact view_execute_jp _
  case h_3 => exact view_execute_call hr _
  case h_4 => simp only [execute, Except.map, view_skipIf, hx, val_eightBits, beq_toNat]
  case h_5 => simp only [execute, Except.map, view_skipIf, hx, val_eightBits, bne_toNat]
  case h_6 =>
    split
    · simp only [execute, Except.map, view_skipIf, hx, hy, beq_toNat]
    · exact hnop
  case h_7 =>
    simp only [execute, Except.map, view_withRegisters, view_set, val_eightBits, ofInt_toNat]
  case h_8 =>
    simp only [execute, Except.map, view_withRegisters, view_set, hx, val_eightBits,
      Arithmetic.ofInt_addWrapping]
  case h_9 =>
    split <;>
      simp only [execute, Except.map, view_withRegisters, view_set, view_setWithFlag, hx, hy,
        ofInt_toNat, Arithmetic.ofInt_bitOr, Arithmetic.ofInt_bitAnd, Arithmetic.ofInt_bitXor,
        Arithmetic.ofInt_addCarry, Arithmetic.carry_addCarry, Arithmetic.ofInt_subNoBorrow,
        Arithmetic.noBorrow_subNoBorrow, Arithmetic.ofInt_shiftRight, Arithmetic.bit_shiftRight,
        Arithmetic.ofInt_shiftLeft, Arithmetic.bit_shiftLeft]
  case h_10 =>
    split
    · simp only [execute, Except.map, view_skipIf, hx, hy, bne_toNat]
    · exact hnop
  case h_11 => exact view_execute_ldIndex _
  case h_12 => exact view_execute_jpOffset hr _
  case h_13 => exact view_execute_rnd x _
  case h_14 => exact view_drawSprite hr x y n
  case h_15 =>
    split
    · simp only [execute, Except.map, view_skipIf, isPressed_get hr]
    · simp only [execute, Except.map, view_skipIf, isPressed_get hr]
    · simp only [hnop]
  case h_16 =>
    split
    · simp only [execute, Except.map, view_withRegisters, view_set, ofInt_toNat]
      rfl
    · simp only [execute, Except.map, view_withRegisters]
      rfl
    · exact view_execute_setDelay x
    · exact view_execute_setSound x
    · exact view_execute_addIndex hr x
    · exact view_execute_ldGlyph hr x
    · exact view_execute_storeDigits hr x
    · exact view_execute_storeRegs hr x
    · exact view_execute_loadRegs hr x
    · simp only [hnop]
  case h_17 => exact hnop

/-- What the instruction at the program counter does is a step of the reference. -/
theorem view_execute_current :
    (m.execute m.current).map view = m.view.step := by
  have hpc : m.memory.read (m.pc + 1) = m.view.memory (m.view.pc + 1) := by
    refine m.memory.read_congr ?_
    rw [pc, pc_eq hr]
    simp only [Fin.val_add]
    omega
  have hpc' : m.memory.read m.pc = m.view.memory m.view.pc := by
    rw [pc, pc_eq hr]
    rfl
  rw [current, Memory.instructionAt, Memory.readWord, hpc, hpc', wordOfBytes_eq,
    decode_wordOfNibbles, view_execute hr]
  rfl

end Instructions

end Machine

end Chip8
