import Cabinet.Cpu.State

/-!
# Arithmetic and logic

Operations on the accumulator with their flags. Carries are those of the exact
sum or difference: out of bit 7 for carry, out of bit 3 for auxiliary carry.
-/

namespace Cabinet.Cpu

/-- Add an operand and a carry to the accumulator. -/
def addWith (cpu : Cpu) (operand : UInt8) (carry : Bool) : Cpu :=
  let sum := cpu.a.toNat + operand.toNat + carry.toNat
  let low := cpu.a.toNat % 16 + operand.toNat % 16 + carry.toNat
  let result := UInt8.ofNat sum
  { cpu with a := result }.setFlag .auxCarry (15 < low)
    |>.setFlag .carry (255 < sum)
    |>.setResultFlags result

/-- The flags of subtracting an operand and a borrow from the accumulator. -/
def compareWith (cpu : Cpu) (operand : UInt8) (borrow : Bool) : Cpu :=
  let taken := operand.toNat + borrow.toNat
  let low := operand.toNat % 16 + borrow.toNat
  cpu.setFlag .auxCarry (cpu.a.toNat % 16 < low)
    |>.setFlag .carry (cpu.a.toNat < taken)
    |>.setResultFlags (cpu.a - UInt8.ofNat taken)

/-- Subtract an operand and a borrow from the accumulator. -/
def subtractWith (cpu : Cpu) (operand : UInt8) (borrow : Bool) : Cpu :=
  { cpu.compareWith operand borrow with
    a := cpu.a - UInt8.ofNat (operand.toNat + borrow.toNat) }

/-- A bitwise result: carry is clear and auxiliary carry is given. -/
def logic (cpu : Cpu) (result : UInt8) (auxCarry : Bool) : Cpu :=
  { cpu with a := result }.setFlag .auxCarry auxCarry
    |>.setFlag .carry false
    |>.setResultFlags result

/--
One accumulator operation. The bitwise product leaves the inclusive or of both
operands' bit 3 in auxiliary carry; the other bitwise operations clear it.
-/
def alu (cpu : Cpu) (op : AluOp) (operand : UInt8) : Cpu :=
  match op with
  | .add => cpu.addWith operand false
  | .adc => cpu.addWith operand (cpu.flag .carry)
  | .sub => cpu.subtractWith operand false
  | .sbb => cpu.subtractWith operand (cpu.flag .carry)
  | .ana => cpu.logic (cpu.a &&& operand) ((cpu.a ||| operand) &&& 0x08 != 0)
  | .xra => cpu.logic (cpu.a ^^^ operand) false
  | .ora => cpu.logic (cpu.a ||| operand) false
  | .cmp => cpu.compareWith operand false

/-- The flags of adding one to a byte; carry keeps its value. -/
def incrementFlags (cpu : Cpu) (value : UInt8) : Cpu :=
  cpu.setFlag .auxCarry (15 < value.toNat % 16 + 1)
    |>.setResultFlags (value + 1)

/-- The flags of taking one from a byte; carry keeps its value. -/
def decrementFlags (cpu : Cpu) (value : UInt8) : Cpu :=
  cpu.setFlag .auxCarry (value.toNat % 16 < 1)
    |>.setResultFlags (value - 1)

/-- What has to be added to the accumulator to make it two decimal digits. -/
def decimalCorrection (cpu : Cpu) : UInt8 :=
  (if cpu.flag .auxCarry || 9 < cpu.a.toNat % 16 then 0x06 else 0) |||
    (if cpu.flag .carry || 0x99 < cpu.a then 0x60 else 0)

/-- Adjust the accumulator after a decimal addition. -/
def decimalAdjust (cpu : Cpu) : Cpu :=
  (cpu.addWith cpu.decimalCorrection false).setFlag .carry (cpu.flag .carry || 0x99 < cpu.a)

/-- Turn the accumulator left; bit 7 goes to bit 0 and to carry. -/
def rotateLeft (cpu : Cpu) : Cpu :=
  { cpu with a := cpu.a <<< 1 ||| cpu.a >>> 7 }.setFlag .carry (cpu.a &&& 0x80 != 0)

/-- Turn the accumulator right; bit 0 goes to bit 7 and to carry. -/
def rotateRight (cpu : Cpu) : Cpu :=
  { cpu with a := cpu.a >>> 1 ||| cpu.a <<< 7 }.setFlag .carry (cpu.a &&& 0x01 != 0)

/-- Turn the accumulator left through carry. -/
def rotateLeftThroughCarry (cpu : Cpu) : Cpu :=
  { cpu with a := cpu.a <<< 1 ||| (if cpu.flag .carry then 0x01 else 0) }.setFlag .carry
    (cpu.a &&& 0x80 != 0)

/-- Turn the accumulator right through carry. -/
def rotateRightThroughCarry (cpu : Cpu) : Cpu :=
  { cpu with a := cpu.a >>> 1 ||| (if cpu.flag .carry then 0x80 else 0) }.setFlag .carry
    (cpu.a &&& 0x01 != 0)

/-- Add a pair to HL; only carry is affected. -/
def addToHl (cpu : Cpu) (value : UInt16) : Cpu :=
  (cpu.setHl (cpu.hl + value)).setFlag .carry (65535 < cpu.hl.toNat + value.toNat)

end Cabinet.Cpu
