/-
# Registers and call stack

Sixteen registers, the index, the program counter, the call stack and the register that waits for a
key, if one does. Registers hold integers: assignment stores what it is given, and the
instructions bring their results into range. The call stack lives outside memory, the most recent
return address first, and may have a limit.
-/

import Chip8.Fault
import Chip8.Program.Basic

namespace Chip8

/-- The registers of the machine. -/
structure Registers where
  /-- `V0` to `VF` -/
  v : Vector Int 16
  /-- the index register -/
  index : Int
  /-- the program counter -/
  pc : Int
  /-- return addresses, the most recent first -/
  stack : List Int
  /-- the register that waits for a key -/
  keyWait : Option Reg
  /-- the greatest depth of the call stack, if it has one -/
  stackLimit : Option Int
  deriving DecidableEq, Repr

namespace Registers

/-- The flag register. -/
def flagReg : Reg := fourBits 15

/-- The register that a jump with an offset adds to its address. -/
def offsetReg : Reg := fourBits 0

/-- The registers after power-on. -/
def initial (stackLimit : Option Int) : Registers :=
  { v := Vector.replicate 16 0, index := 0, pc := programStart, stack := [], keyWait := none,
    stackLimit }

/-- Power-on state with the same limit on the call stack. -/
def reset (r : Registers) : Registers := initial r.stackLimit

/-- The value of a register. -/
def get (r : Registers) (x : Reg) : Int := r.v[x]

/-- Stores a value in a register. -/
def set (r : Registers) (x : Reg) (value : Int) : Registers := { r with v := r.v.set x value }

/-- The value of the flag register. -/
def flag (r : Registers) : Int := r.get flagReg

/-- Stores a flag as one or zero. -/
def setFlag (r : Registers) (flag : Bool) : Registers := r.set flagReg (if flag then 1 else 0)

/-- Stores a result and then its flag, so the flag wins where both go to the flag register. -/
def setWithFlag (r : Registers) (x : Reg) (result : Int × Bool) : Registers :=
  (r.set x result.1).setFlag result.2

/-- The call stack has reached its limit. -/
def stackFull (r : Registers) : Bool :=
  match r.stackLimit with
  | some limit => decide (limit ≤ r.stack.length)
  | none => false

/-- Puts a return address on the call stack. -/
def push (r : Registers) (address : Int) : Except Fault Registers :=
  match r.stackLimit with
  | some limit =>
    if r.stackFull then .error (.stackOverflow limit address)
    else .ok { r with stack := address :: r.stack }
  | none => .ok { r with stack := address :: r.stack }

/-- Takes the most recent return address off the call stack. -/
def pop (r : Registers) : Except Fault (Int × Registers) :=
  match r.stack with
  | [] => .error (.stackUnderflow r.pc)
  | address :: stack => .ok (address, { r with stack })

/-- A register with its value. -/
def registerText (x : Nat) (value : Int) : Text :=
  'V' :: Text.hexNat x ++ '=' :: Text.hexSigned 2 value

/-- The registers in one line, with the number of the register that waits for a key. -/
def textWaiting (r : Registers) (waiting : Option Int) : Text :=
  let wait : Text := match waiting with
    | some x => " WAIT=V".toList ++ Text.hexSigned 1 x
    | none => []
  "PC=".toList ++ Text.hexSigned 3 r.pc ++ " I=".toList ++ Text.hexSigned 4 r.index ++
    " SP=".toList ++ Text.decimalNat r.stack.length ++ [' '] ++
    Text.join [' '] (r.v.toList.zipIdx.map fun (value, x) => registerText x value) ++ wait

/-- The registers in one line. -/
def text (r : Registers) : Text := r.textWaiting (r.keyWait.map fun x => (x : Int))

end Registers

end Chip8
