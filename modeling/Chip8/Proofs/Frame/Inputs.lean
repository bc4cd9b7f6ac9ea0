/-
# What inputs do to the emulator

The inputs of a frame switch the mode, press keys and ask for a step or the end. Of the machine they
reach two parts only. The keys that are down follow every key of the frame: one that comes while the
frame is running joins them, one that comes while it is paused replaces them. The register that
waits for a key, if one does, follows the first key and no other, since no register waits behind it.
-/

import Chip8.Proofs.Frame.Ticks

namespace Chip8

namespace Input

/-- The key that goes down, if the input is one. -/
def key? : Input → Option Nibble
  | .key k => some k
  | .step | .togglePause | .quit => none

/-- The keys among inputs, in order. -/
def keys (inputs : List Input) : List Nibble := inputs.filterMap key?

end Input

namespace Keypad

/-- The keys that are down behind inputs which come in a mode. A key joins the others while running
and replaces them while paused. -/
def afterInputs : Bool → Keypad → List Input → Keypad
  | _, held, [] => held
  | running, held, .key k :: rest =>
    afterInputs running ((if running then held else initial).press k) rest
  | running, held, .togglePause :: rest => afterInputs (!running) held rest
  | running, held, .step :: rest | running, held, .quit :: rest => afterInputs running held rest

variable {held : Keypad} {inputs : List Input}

/-- While nothing pauses, all keys are held that were down before or come among the inputs. -/
theorem isPressed_afterInputs_of_running (hsteady : .togglePause ∉ inputs) (k : Nibble) :
    (afterInputs true held inputs).isPressed k = true ↔
      .key k ∈ inputs ∨ held.isPressed k = true := by
  induction inputs generalizing held with
  | nil => simp [afterInputs]
  | cons input rest ih =>
    have hrest : .togglePause ∉ rest := fun hmem => hsteady (List.mem_cons_of_mem input hmem)
    cases input with
    | key pressed =>
      rw [afterInputs, ih hrest, if_pos rfl, isPressed_press, List.mem_cons, Input.key.injEq]
      tauto
    | step | quit => simp [afterInputs, ih hrest]
    | togglePause => exact absurd List.mem_cons_self hsteady

/-- While nothing resumes, the last key that comes among the inputs is the only one held. -/
theorem afterInputs_of_paused (hsteady : .togglePause ∉ inputs) :
    afterInputs false held inputs = ((Input.keys inputs).getLast?.map initial.press).getD held := by
  induction inputs generalizing held with
  | nil => rfl
  | cons input rest ih =>
    have hrest : .togglePause ∉ rest := fun hmem => hsteady (List.mem_cons_of_mem input hmem)
    cases input with
    | key pressed =>
      have hkeys : Input.keys (.key pressed :: rest) = pressed :: Input.keys rest := rfl
      rw [afterInputs, ih hrest, if_neg Bool.false_ne_true, hkeys, List.getLast?_cons]
      cases (Input.keys rest).getLast? <;> rfl
    | step | quit => exact ih hrest
    | togglePause => exact absurd List.mem_cons_self hsteady

end Keypad

namespace Registers

/-- The registers once keys have been pressed: the register that waits takes the first of them, and
waits no longer. -/
def answered (r : Registers) (keys : List Nibble) : Registers :=
  match r.keyWait, keys with
  | some x, k :: _ => { r.set x k with keyWait := none }
  | _, _ => r

variable {r : Registers} {x : Reg} {k : Nibble} {keys : List Nibble}

theorem answered_of_waiting (hwait : r.keyWait = some x) :
    r.answered (k :: keys) = { r.set x k with keyWait := none } := by
  simp only [answered, hwait]

theorem answered_of_idle (hidle : r.keyWait = none ∨ keys = []) : r.answered keys = r := by
  unfold answered
  split
  · rename_i x k rest hwait
    rcases hidle with hfree | hnil
    · rw [hwait] at hfree
      cases hfree
    · cases hnil
  · rfl

/-- No register waits any more, once a key has come. -/
theorem keyWait_answered (hcomes : r.keyWait = none ∨ keys ≠ []) :
    (r.answered keys).keyWait = none := by
  cases hwait : r.keyWait with
  | none => rw [answered_of_idle (.inl hwait), hwait]
  | some x =>
    rw [hwait] at hcomes
    obtain ⟨k, rest, rfl⟩ := List.exists_cons_of_ne_nil (hcomes.resolve_left nofun)
    rw [answered_of_waiting hwait]

/-- Later keys change nothing more. -/
theorem answered_append (r : Registers) (keys more : List Nibble) :
    r.answered (keys ++ more) = (r.answered keys).answered more := by
  cases keys with
  | nil => rw [List.nil_append, answered_of_idle (.inr rfl)]
  | cons k rest =>
    cases hwait : r.keyWait with
    | none => rw [answered_of_idle (.inl hwait), answered_of_idle (.inl hwait),
        answered_of_idle (.inl hwait)]
    | some x => rw [List.cons_append, answered_of_waiting hwait, answered_of_waiting hwait,
        answered_of_idle (.inl rfl)]

end Registers

namespace Emulator

variable {ρ : Type}

/-- The emulator once keys have been pressed that leave a keypad, with its journal. -/
def takingKeys (e : Emulator ρ) (keys : List Nibble) (keypad : Keypad) (journal : Array Event) :
    Emulator ρ :=
  { e with
    machine := { e.machine with registers := e.machine.registers.answered keys, keypad }
    journal }

theorem takingKeys_nil (e : Emulator ρ) (journal : Array Event) :
    e.takingKeys [] e.machine.keypad journal = { e with journal } := by
  rw [takingKeys, Registers.answered_of_idle (.inr rfl)]

theorem takingKeys_append (e : Emulator ρ) (keys more : List Nibble) (held keypad : Keypad)
    (first journal : Array Event) :
    (e.takingKeys keys held first).takingKeys more keypad journal =
      e.takingKeys (keys ++ more) keypad journal := by
  rw [takingKeys, takingKeys, takingKeys, Registers.answered_append]

/-- A key goes to the keypad, and to the register that waits, if one does. -/
theorem exists_pressKey_eq (e : Emulator ρ) (k : Nibble) :
    ∃ journal, e.pressKey k = e.takingKeys [k] (e.machine.keypad.press k) journal := by
  refine ⟨(e.pressKey k).journal, ?_⟩
  unfold pressKey Machine.pressKey takingKeys Registers.answered
  cases e.machine.registers.keyWait <;> rfl

end Emulator

namespace FrameLoop

variable {ρ : Type}

/-- Of the emulator an input reaches the keys, the register that waits, and the journal. -/
theorem exists_applyInput_eq (l : FrameLoop ρ) (input : Input) :
    ∃ journal, (l.applyInput input).emulator = l.emulator.takingKeys (Input.keys [input])
      (l.emulator.machine.keypad.afterInputs l.running [input]) journal := by
  unfold applyInput
  cases input with
  | key k =>
    cases hrunning : l.running with
    | true => exact l.emulator.exists_pressKey_eq k
    | false => exact l.emulator.clearKeys.exists_pressKey_eq k
  | togglePause =>
    unfold pause resume
    cases hrunning : l.running with
    | true => exact ⟨_, (l.emulator.takingKeys_nil _).symm⟩
    | false => exact ⟨_, (l.emulator.takingKeys_nil _).symm⟩
  | step | quit => exact ⟨_, (l.emulator.takingKeys_nil l.emulator.journal).symm⟩

/-- Inputs reach the keys, each by every key, and the register that waits by the first one. -/
theorem exists_applyInputs_eq (l : FrameLoop ρ) (inputs : List Input) :
    ∃ journal, (inputs.foldl applyInput l).emulator = l.emulator.takingKeys (Input.keys inputs)
      (l.emulator.machine.keypad.afterInputs l.running inputs) journal := by
  induction inputs generalizing l with
  | nil => exact ⟨_, (l.emulator.takingKeys_nil l.emulator.journal).symm⟩
  | cons input rest ih =>
    have hkeys : Input.keys (input :: rest) = Input.keys [input] ++ Input.keys rest := by
      rw [Input.keys, Input.keys, Input.keys, ← List.filterMap_append, List.singleton_append]
    have hheld : l.emulator.machine.keypad.afterInputs l.running (input :: rest) =
        (l.emulator.machine.keypad.afterInputs l.running [input]).afterInputs
          (l.applyInput input).running rest := by
      rw [running_applyInput]
      cases input <;> rfl
    obtain ⟨first, hfirst⟩ := l.exists_applyInput_eq input
    obtain ⟨journal, hrest⟩ := ih (l.applyInput input)
    refine ⟨journal, ?_⟩
    rw [List.foldl_cons, hrest, hfirst, hkeys, hheld]
    exact Emulator.takingKeys_append _ _ _ _ _ _ _

/-- The emulator once the inputs of a frame have been applied: a frame that starts running ticks
and lets all keys come up first. -/
theorem exists_applied_eq (l : FrameLoop ρ) :
    ∃ journal, l.applied.emulator = (if l.running then l.emulator.tick else l.emulator).takingKeys
      (Input.keys l.frontend.inputs)
      ((if l.running then Keypad.initial else l.emulator.machine.keypad).afterInputs l.running
        l.frontend.inputs) journal := by
  obtain ⟨journal, happlied⟩ := l.beginFrame.exists_applyInputs_eq l.frontend.inputs
  refine ⟨journal, ?_⟩
  rw [applied, happlied, running_beginFrame]
  unfold beginFrame
  cases l.running <;> rfl

end FrameLoop

end Chip8
