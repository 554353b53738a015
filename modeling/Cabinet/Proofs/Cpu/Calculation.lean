import Cabinet.Proofs.Cpu.Opcode
import Cabinet.Proofs.Machine.Control

/-!
# Calculations in whole numbers

The operations of the accumulator work on bytes, bit by bit and carry by carry.
Here they are given by sums, differences and remainders of whole numbers, and
the flags by what they say about the byte that comes out. The processor's own
operations agree with this for all bytes and carries.
-/

namespace Cabinet.Cpu

/-! ## Flags -/

/-- Flags are read from the flag byte only. -/
theorem flag_of_flags {first second : Cpu} (same : first.flags = second.flags) (flag : Flag) :
    first.flag flag = second.flag flag := by
  rw [Cpu.flag, Cpu.flag, testFlags, testFlags, same]

/-- A flag is as it was last set, and setting it leaves the other flags alone. -/
theorem flag_setFlag (cpu : Cpu) (flag other : Flag) (on : Bool) :
    (cpu.setFlag flag on).flag other = if other = flag then on else cpu.flag other := by
  by_cases same : other = flag
  · subst same
    rw [if_pos rfl, Cpu.flag, testFlags]
    cases on with
    | true =>
        have parts : (cpu.flags ||| other.mask) &&& other.mask =
            cpu.flags &&& other.mask ||| other.mask &&& other.mask :=
          UInt8.toBitVec_inj.mp BitVec.and_or_distrib_right
        change ((cpu.flags ||| other.mask) &&& other.mask != 0) = true
        rw [parts, UInt8.and_self, bne_iff_ne, ne_eq, UInt8.or_eq_zero_iff]
        rintro ⟨-, none⟩
        cases other <;> cases none
    | false =>
        change (cpu.flags &&& ~~~other.mask &&& other.mask != 0) = false
        rw [UInt8.and_assoc, UInt8.not_and_self, UInt8.and_zero]
        rfl
  · have apart : ~~~flag.mask &&& other.mask = other.mask := by
      revert same
      cases flag <;> cases other <;> decide
    have kept := cpu.outside_setFlag flag on UInt8.and_self
    rw [if_neg same, Cpu.flag, Cpu.flag, testFlags, testFlags, and_eq_of_outside kept apart]

/-- The number of bits that are set in a byte. -/
def setBits (value : Nat) : Nat :=
  (List.range 8).countP value.testBit

theorem sign_eq (value : UInt8) : (value &&& 0x80 != 0) = decide (128 ≤ value.toNat) := by
  revert value
  exact Opcode.forall_opcode (by decide +kernel)

theorem evenParity_eq (value : UInt8) :
    evenParity value = decide (setBits value.toNat % 2 = 0) := by
  revert value
  exact Opcode.forall_opcode (by decide +kernel)

theorem zero_eq (value : UInt8) : (value == 0) = decide (value.toNat = 0) := by
  rw [Bool.eq_iff_iff, beq_iff_eq, decide_eq_true_iff]
  exact UInt8.toNat_inj.symm

/-- Bit 3 of a byte. -/
theorem bitThree_eq (value : UInt8) : (value &&& 0x08 != 0) = value.toNat.testBit 3 := by
  revert value
  exact Opcode.forall_opcode (by decide +kernel)

/-! ## Calculations -/

/-- A byte that comes out of an operation, with the carries out of its bits 7 and 3. -/
structure Calculation where
  result : Nat
  carry : Bool
  auxCarry : Bool

namespace Calculation

/-- The sum of two bytes and a carry. -/
def sum (first second carry : Nat) : Calculation where
  result := (first + second + carry) % 256
  carry := 255 < first + second + carry
  auxCarry := 15 < first % 16 + second % 16 + carry

/-- The difference of two bytes and a borrow; the carries are borrows. -/
def difference (first second borrow : Nat) : Calculation where
  result := ((first - second - borrow : Int) % 256).toNat
  carry := first < second + borrow
  auxCarry := first % 16 < second % 16 + borrow

/-- A result that is made bit by bit, without a carry. -/
def bitwise (result : Nat) (auxCarry : Bool) : Calculation :=
  ⟨result, false, auxCarry⟩

/-- ADD, ADC, SUB, SBB, ANA, XRA, ORA and CMP in the order of their codes. -/
def ofCode (code : Fin 8) (accumulator operand carry : Nat) : Calculation :=
  match code with
  | 0 => sum accumulator operand 0
  | 1 => sum accumulator operand carry
  | 2 => difference accumulator operand 0
  | 3 => difference accumulator operand carry
  | 4 => bitwise (accumulator &&& operand) ((accumulator ||| operand).testBit 3)
  | 5 => bitwise (accumulator ^^^ operand) false
  | 6 => bitwise (accumulator ||| operand) false
  | 7 => difference accumulator operand 0

/-- INR: one more, with the carry as it was. -/
def increment (value : Nat) (carry : Bool) : Calculation :=
  { sum value 1 0 with carry }

/-- DCR: one less, with the carry as it was. -/
def decrement (value : Nat) (carry : Bool) : Calculation :=
  { difference value 1 0 with carry }

/-- The flags behind an operation are those of a calculation; other bits are as before. -/
structure Describes (calculation : Calculation) (before after : Cpu) : Prop where
  sign : after.flag .sign = decide (128 ≤ calculation.result)
  zero : after.flag .zero = decide (calculation.result = 0)
  parity : after.flag .parity = decide (setBits calculation.result % 2 = 0)
  carry : after.flag .carry = calculation.carry
  auxCarry : after.flag .auxCarry = calculation.auxCarry
  stray : after.stray = before.stray

/-- Only the flag bytes matter. -/
theorem Describes.congr {calculation : Calculation} {before after : Cpu}
    (described : calculation.Describes before after) {start finish : Cpu}
    (first : start.flags = before.flags) (last : finish.flags = after.flags) :
    calculation.Describes start finish := by
  constructor
  · rw [flag_of_flags last, described.sign]
  · rw [flag_of_flags last, described.zero]
  · rw [flag_of_flags last, described.parity]
  · rw [flag_of_flags last, described.carry]
  · rw [flag_of_flags last, described.auxCarry]
  · rw [Cpu.stray, Cpu.stray, first, last]
    exact described.stray

end Calculation

open Calculation

/-- Setting the flags of a result leaves the two carries as they were. -/
theorem describes_setResultFlags {calculation : Calculation} {before cpu : Cpu} {result : UInt8}
    (value : result.toNat = calculation.result) (carry : cpu.flag .carry = calculation.carry)
    (auxCarry : cpu.flag .auxCarry = calculation.auxCarry) (stray : cpu.stray = before.stray) :
    calculation.Describes before (cpu.setResultFlags result) where
  sign := by
    simp only [setResultFlags, flag_setFlag, reduceCtorEq, ↓reduceIte, sign_eq, value]
  zero := by
    simp only [setResultFlags, flag_setFlag, reduceCtorEq, ↓reduceIte, zero_eq, value]
  parity := by
    simp only [setResultFlags, flag_setFlag, ↓reduceIte, evenParity_eq, value]
  carry := by
    simp only [setResultFlags, flag_setFlag, reduceCtorEq, ↓reduceIte, carry]
  auxCarry := by
    simp only [setResultFlags, flag_setFlag, reduceCtorEq, ↓reduceIte, auxCarry]
  stray := by
    simp only [setResultFlags, stray_setFlag, stray]

theorem describes_addWith (cpu : Cpu) (operand : UInt8) (carry : Bool) :
    (sum cpu.a.toNat operand.toNat carry.toNat).Describes cpu (cpu.addWith operand carry) := by
  apply describes_setResultFlags
  · exact UInt8.toNat_ofNat'
  · simp only [flag_setFlag, ↓reduceIte, sum]
  · simp only [flag_setFlag, reduceCtorEq, ↓reduceIte, sum]
  · simp only [stray_setFlag]
    rfl

/-- A difference of bytes wraps around like the remainder of the whole numbers' difference. -/
theorem toNat_sub_ofNat (first : UInt8) (taken : Nat) :
    (first - UInt8.ofNat taken).toNat = ((first.toNat - taken : Int) % 256).toNat := by
  have bound := first.toNat_lt
  rw [UInt8.toNat_sub, UInt8.toNat_ofNat']
  omega

theorem result_difference (first second borrow : Nat) :
    (difference first second borrow).result =
      ((first - (second + borrow : Nat) : Int) % 256).toNat := by
  simp only [difference]
  omega

theorem describes_compareWith (cpu : Cpu) (operand : UInt8) (borrow : Bool) :
    (difference cpu.a.toNat operand.toNat borrow.toNat).Describes cpu
      (cpu.compareWith operand borrow) := by
  apply describes_setResultFlags
  · rw [toNat_sub_ofNat, result_difference]
  · simp only [flag_setFlag, ↓reduceIte, difference]
  · simp only [flag_setFlag, reduceCtorEq, ↓reduceIte, difference]
  · simp only [stray_setFlag]

theorem describes_subtractWith (cpu : Cpu) (operand : UInt8) (borrow : Bool) :
    (difference cpu.a.toNat operand.toNat borrow.toNat).Describes cpu
      (cpu.subtractWith operand borrow) :=
  (cpu.describes_compareWith operand borrow).congr rfl rfl

theorem describes_logic (cpu : Cpu) (result : UInt8) (auxCarry : Bool) :
    (bitwise result.toNat auxCarry).Describes cpu (cpu.logic result auxCarry) := by
  apply describes_setResultFlags
  · rfl
  · simp only [flag_setFlag, ↓reduceIte, bitwise]
  · simp only [flag_setFlag, reduceCtorEq, ↓reduceIte, bitwise]
  · simp only [stray_setFlag]
    rfl

/-! ## Operations by their codes -/

/-- Every operation of the accumulator leaves the flags of its calculation. -/
theorem describes_alu (cpu : Cpu) (operand : UInt8) (code : Fin 8) :
    (ofCode code cpu.a.toNat operand.toNat (cpu.flag .carry).toNat).Describes cpu
      (cpu.alu (.ofCode code) operand) := by
  match code with
  | 0 => exact cpu.describes_addWith operand false
  | 1 => exact cpu.describes_addWith operand (cpu.flag .carry)
  | 2 => exact cpu.describes_subtractWith operand false
  | 3 => exact cpu.describes_subtractWith operand (cpu.flag .carry)
  | 4 =>
      -- The half carry of ANA is taken from the operands, not from the result.
      have logic := cpu.describes_logic (cpu.a &&& operand) ((cpu.a ||| operand) &&& 0x08 != 0)
      rw [UInt8.toNat_and] at logic
      rw [ofCode, ← UInt8.toNat_or, ← bitThree_eq]
      exact logic
  | 5 =>
      have logic := cpu.describes_logic (cpu.a ^^^ operand) false
      rwa [UInt8.toNat_xor] at logic
  | 6 =>
      have logic := cpu.describes_logic (cpu.a ||| operand) false
      rwa [UInt8.toNat_or] at logic
  | 7 => exact cpu.describes_compareWith operand false

/-- The result goes to the accumulator, but for a comparison. -/
theorem toNat_a_alu (cpu : Cpu) (operand : UInt8) (code : Fin 8) :
    (cpu.alu (.ofCode code) operand).a.toNat =
      if code = Fin.last 7 then cpu.a.toNat
      else (ofCode code cpu.a.toNat operand.toNat (cpu.flag .carry).toNat).result := by
  match code with
  | 0 | 1 => exact UInt8.toNat_ofNat'
  | 2 | 3 => exact (toNat_sub_ofNat cpu.a _).trans (result_difference ..).symm
  | 4 => exact UInt8.toNat_and ..
  | 5 => exact UInt8.toNat_xor ..
  | 6 => exact UInt8.toNat_or ..
  | 7 => rfl

/-- An operation of the accumulator changes nothing but it and the flags. -/
theorem alu_eq (cpu : Cpu) (op : AluOp) (operand : UInt8) :
    cpu.alu op operand =
      { cpu with a := (cpu.alu op operand).a, flags := (cpu.alu op operand).flags } := by
  cases op <;>
    simp only [alu, addWith, subtractWith, compareWith, logic, setResultFlags, setFlag]

theorem incrementFlags_eq (cpu : Cpu) (value : UInt8) :
    cpu.incrementFlags value = { cpu with flags := (cpu.incrementFlags value).flags } := by
  simp only [incrementFlags, setResultFlags, setFlag]

theorem describes_incrementFlags (cpu : Cpu) (value : UInt8) :
    (increment value.toNat (cpu.flag .carry)).Describes cpu (cpu.incrementFlags value) := by
  apply describes_setResultFlags
  · exact UInt8.toNat_add value 1
  · simp only [flag_setFlag, reduceCtorEq, ↓reduceIte, increment]
  · simp only [flag_setFlag, ↓reduceIte, increment, sum]
  · simp only [stray_setFlag]

theorem decrementFlags_eq (cpu : Cpu) (value : UInt8) :
    cpu.decrementFlags value = { cpu with flags := (cpu.decrementFlags value).flags } := by
  simp only [decrementFlags, setResultFlags, setFlag]

theorem toNat_decrement (value : UInt8) {carry : Bool} :
    (value - 1).toNat = (decrement value.toNat carry).result :=
  (toNat_sub_ofNat value 1).trans (result_difference value.toNat 1 0).symm

theorem describes_decrementFlags (cpu : Cpu) (value : UInt8) :
    (decrement value.toNat (cpu.flag .carry)).Describes cpu (cpu.decrementFlags value) := by
  apply describes_setResultFlags
  · exact toNat_decrement value
  · simp only [flag_setFlag, reduceCtorEq, ↓reduceIte, decrement]
  · simp only [flag_setFlag, ↓reduceIte, decrement, difference]
  · simp only [stray_setFlag]

end Cabinet.Cpu
