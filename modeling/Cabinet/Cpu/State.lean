import Cabinet.Cpu.Instruction

/-!
# Processor state

The registers, the flag byte, the interrupt line and the cycle count. The flag
byte has five meaningful bits; operations on flags leave its other three bits
alone, and the byte that goes to the stack has bit 1 set and the other two
clear. One vector at a time waits on the interrupt line.
-/

namespace Cabinet

/--
Everything the processor remembers. Memory is not part of it. The flags are sign, zero,
auxiliary carry, parity and carry in bits 7, 6, 4, 2 and 0. A vector is pending while it
waits on the interrupt line, and the clock states are those since the last reset.
-/
structure Cpu where
  a : UInt8 := 0
  b : UInt8 := 0
  c : UInt8 := 0
  d : UInt8 := 0
  e : UInt8 := 0
  h : UInt8 := 0
  l : UInt8 := 0
  sp : UInt16 := 0
  pc : UInt16 := 0
  flags : UInt8 := 0
  enabled : Bool := false
  halted : Bool := false
  pending : Option UInt8 := none
  cycles : UInt64 := 0
deriving DecidableEq, Inhabited

namespace Cpu

inductive Flag where
  | sign | zero | auxCarry | parity | carry
deriving DecidableEq, Inhabited

namespace Flag

def mask : Flag → UInt8
  | .sign => 0x80 | .zero => 0x40 | .auxCarry => 0x10 | .parity => 0x04 | .carry => 0x01

end Flag

/-- The five meaningful bits of the flag byte. -/
def flagBits : UInt8 := 0xD5

/-- The bit of the stacked flag byte that is always set. -/
def stackedBit : UInt8 := 0x02

/-- Join a high and a low byte. -/
def joinBytes (high low : UInt8) : UInt16 :=
  high.toUInt16 <<< 8 ||| low.toUInt16

def highByte (value : UInt16) : UInt8 := (value >>> 8).toUInt8

def lowByte (value : UInt16) : UInt8 := value.toUInt8

/-- Whether any bit of `mask` is set in the flag byte. -/
def testFlags (cpu : Cpu) (mask : UInt8) : Bool :=
  cpu.flags &&& mask != 0

def flag (cpu : Cpu) (flag : Flag) : Bool :=
  cpu.testFlags flag.mask

/-- Set or clear one flag. -/
def setFlag (cpu : Cpu) (flag : Flag) (on : Bool) : Cpu :=
  { cpu with flags := if on then cpu.flags ||| flag.mask else cpu.flags &&& ~~~flag.mask }

/-- Whether the number of set bits is even, by folding the byte onto itself. -/
def evenParity (value : UInt8) : Bool :=
  let half := value ^^^ (value >>> 4)
  let quarter := half ^^^ (half >>> 2)
  (quarter ^^^ (quarter >>> 1)) &&& 1 == 0

/-- Make sign, zero and parity describe a result byte. -/
def setResultFlags (cpu : Cpu) (result : UInt8) : Cpu :=
  cpu.setFlag .sign (result &&& 0x80 != 0)
    |>.setFlag .zero (result == 0)
    |>.setFlag .parity (evenParity result)

def bc (cpu : Cpu) : UInt16 := joinBytes cpu.b cpu.c

def de (cpu : Cpu) : UInt16 := joinBytes cpu.d cpu.e

def hl (cpu : Cpu) : UInt16 := joinBytes cpu.h cpu.l

/-- The accumulator and the flags as they go to the stack. -/
def psw (cpu : Cpu) : UInt16 := joinBytes cpu.a (cpu.flags &&& flagBits ||| stackedBit)

def setBc (cpu : Cpu) (value : UInt16) : Cpu :=
  { cpu with b := highByte value, c := lowByte value }

def setDe (cpu : Cpu) (value : UInt16) : Cpu :=
  { cpu with d := highByte value, e := lowByte value }

def setHl (cpu : Cpu) (value : UInt16) : Cpu :=
  { cpu with h := highByte value, l := lowByte value }

/-- Take the accumulator and the five meaningful flags from a stacked word. -/
def setPsw (cpu : Cpu) (value : UInt16) : Cpu :=
  { cpu with a := highByte value, flags := lowByte value &&& flagBits }

def pair (cpu : Cpu) : Pair → UInt16
  | .bc => cpu.bc
  | .de => cpu.de
  | .hl => cpu.hl
  | .sp => cpu.sp

def setPair (cpu : Cpu) (pair : Pair) (value : UInt16) : Cpu :=
  match pair with
  | .bc => cpu.setBc value
  | .de => cpu.setDe value
  | .hl => cpu.setHl value
  | .sp => { cpu with sp := value }

def stackPair (cpu : Cpu) : StackPair → UInt16
  | .bc => cpu.bc
  | .de => cpu.de
  | .hl => cpu.hl
  | .psw => cpu.psw

def setStackPair (cpu : Cpu) (pair : StackPair) (value : UInt16) : Cpu :=
  match pair with
  | .bc => cpu.setBc value
  | .de => cpu.setDe value
  | .hl => cpu.setHl value
  | .psw => cpu.setPsw value

/-- Whether a branch condition holds. -/
def holds (cpu : Cpu) : Cond → Bool
  | .notZero => !cpu.flag .zero
  | .zero => cpu.flag .zero
  | .noCarry => !cpu.flag .carry
  | .carry => cpu.flag .carry
  | .parityOdd => !cpu.flag .parity
  | .parityEven => cpu.flag .parity
  | .plus => !cpu.flag .sign
  | .minus => cpu.flag .sign

/-- The vector that the next step services, if interrupts are accepted and one waits. -/
def serviceable (cpu : Cpu) : Option UInt8 :=
  if cpu.enabled then cpu.pending else none

/-- Put a vector on the interrupt line, in place of any that still waits there. -/
def raise (cpu : Cpu) (vector : UInt8) : Cpu :=
  { cpu with pending := some vector }

/-- Every register, the flags, the interrupt line and the cycle count as at power-on. -/
def reset (cpu : Cpu) : Cpu :=
  { cpu with
    a := 0, b := 0, c := 0, d := 0, e := 0, h := 0, l := 0, sp := 0, pc := 0, flags := 0,
    enabled := false, halted := false, pending := none, cycles := 0 }

/-- A saved state as the processor takes it back: the flag byte keeps its five meaningful bits. -/
def restored (saved : Cpu) : Cpu :=
  { saved with flags := saved.flags &&& flagBits }

end Cpu

end Cabinet
