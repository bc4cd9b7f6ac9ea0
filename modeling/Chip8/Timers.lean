/-
# Timers

Two counters of one byte that count down to zero, once per frame. The buzzer sounds while the
sound timer is not zero.
-/

namespace Chip8

/-- The delay timer and the sound timer. -/
structure Timers where
  delay : UInt8
  sound : UInt8
  deriving DecidableEq, Repr

namespace Timers

/-- Both timers at zero. -/
def initial : Timers := { delay := 0, sound := 0 }

/-- One step down, but not below zero. -/
def countDown (t : UInt8) : UInt8 := if t = 0 then 0 else t - 1

/-- Sets the delay timer to the lowest byte of a value. -/
def setDelay (t : Timers) (value : Int) : Timers := { t with delay := UInt8.ofInt value }

/-- Sets the sound timer to the lowest byte of a value. -/
def setSound (t : Timers) (value : Int) : Timers := { t with sound := UInt8.ofInt value }

/-- The buzzer sounds. -/
def soundActive (t : Timers) : Bool := t.sound != 0

/-- One frame passes. -/
def tick (t : Timers) : Timers := { delay := countDown t.delay, sound := countDown t.sound }

theorem toNat_countDown (t : UInt8) : (countDown t).toNat = t.toNat - 1 := by
  unfold countDown
  by_cases hzero : t = 0
  · rw [if_pos hzero, hzero]
    rfl
  · have hpositive : (1 : UInt8).toNat ≤ t.toNat :=
      Nat.pos_of_ne_zero fun h => hzero (UInt8.toNat_inj.1 h)
    rw [if_neg hzero, UInt8.toNat_sub_of_le _ _ (UInt8.le_iff_toNat_le.2 hpositive)]
    rfl

end Timers

end Chip8
