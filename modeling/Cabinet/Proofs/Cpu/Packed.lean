import Cabinet.Proofs.Cpu.Calculation

/-!
# Packed decimal digits

A byte with a decimal digit in each half stands for a number below 100, and a
list of such bytes, the least significant one first, for a number in base 100.
The decimal adjustment behind an addition with carry makes two digits of the sum
and the carry into the next byte.
-/

namespace Cabinet.Cpu

namespace Packed

/-- Whether both halves of a byte are decimal digits. -/
def IsDigits (byte : UInt8) : Prop :=
  byte.toNat / 16 ≤ 9 ∧ byte.toNat % 16 ≤ 9

instance (byte : UInt8) : Decidable (IsDigits byte) :=
  inferInstanceAs (Decidable (_ ∧ _))

/-- What the two digits of a byte stand for. -/
def number (byte : UInt8) : Nat :=
  10 * (byte.toNat / 16) + byte.toNat % 16

/-- Bytes of two digits each, the least significant byte first, and what they stand for. -/
inductive StandsFor : List UInt8 → Nat → Prop where
  | none : StandsFor [] 0
  | more {byte : UInt8} {bytes : List UInt8} {rest : Nat} (digits : IsDigits byte)
      (above : StandsFor bytes rest) : StandsFor (byte :: bytes) (number byte + 100 * rest)

theorem number_lt {byte : UInt8} (digits : IsDigits byte) : number byte < 100 := by
  obtain ⟨high, low⟩ := digits
  rw [number]
  omega

end Packed

open Packed

/-- The correction by whether it is needed in the low and in the high half. -/
theorem toNat_decimalCorrection (cpu : Cpu) :
    cpu.decimalCorrection.toNat =
      (if cpu.flag .auxCarry = true ∨ 9 < cpu.a.toNat % 16 then 6 else 0) +
        (if cpu.flag .carry = true ∨ 0x99 < cpu.a.toNat then 96 else 0) := by
  have above : ((0x99 : UInt8) < cpu.a) = (0x99 < cpu.a.toNat) := rfl
  simp only [decimalCorrection, Bool.or_eq_true, decide_eq_true_iff, above]
  split <;> split <;> rfl

theorem toNat_a_decimalAdjust (cpu : Cpu) :
    cpu.decimalAdjust.a.toNat = (cpu.a.toNat + cpu.decimalCorrection.toNat) % 256 :=
  UInt8.toNat_ofNat'

theorem carry_decimalAdjust (cpu : Cpu) :
    cpu.decimalAdjust.flag .carry = (cpu.flag .carry || decide (0x99 < cpu.a.toNat)) := by
  rw [decimalAdjust, flag_setFlag, if_pos rfl]
  rfl

/-- Two digits of a decimal sum in the accumulator, with the carry into the next ones. -/
structure DecimalSum (cpu : Cpu) (total : Nat) : Prop where
  digits : IsDigits cpu.a
  number : number cpu.a = total % 100
  carry : cpu.flag .carry = decide (100 ≤ total)

/--
The adjustment for every sum of two high digits and of two low digits with a
carry: six is added to each half that is above nine or has made a carry.
-/
theorem adjusted_digits : ∀ high ≤ 18, ∀ low ≤ 19,
    ((16 * high + low) % 256 +
      ((if 15 < low ∨ 9 < (16 * high + low) % 256 % 16 then 6 else 0) +
        (if 255 < 16 * high + low ∨ 0x99 < (16 * high + low) % 256 then 96 else 0))) % 256 =
      16 * ((10 * high + low) % 100 / 10) + (10 * high + low) % 10 := by
  decide +kernel

/-- The sum of two bytes of digits and a carry, adjusted, is the byte of their decimal sum. -/
theorem decimalSum_adjusted (cpu : Cpu) {before : Cpu} {first second : UInt8} {carry : Bool}
    (firstDigits : IsDigits first) (secondDigits : IsDigits second)
    (described : (Calculation.sum first.toNat second.toNat carry.toNat).Describes before cpu)
    (result : cpu.a.toNat = (first.toNat + second.toNat + carry.toNat) % 256) :
    cpu.decimalAdjust.DecimalSum (number first + number second + carry.toNat) := by
  have small : carry.toNat ≤ 1 := carry.toNat_le
  obtain ⟨firstHigh, firstLow⟩ := firstDigits
  obtain ⟨secondHigh, secondLow⟩ := secondDigits
  -- The digits of both places are added apart from each other.
  obtain ⟨high, highSum⟩ : ∃ high, high = first.toNat / 16 + second.toNat / 16 := ⟨_, rfl⟩
  obtain ⟨low, lowSum⟩ : ∃ low, low = first.toNat % 16 + second.toNat % 16 + carry.toNat :=
    ⟨_, rfl⟩
  have sum : first.toNat + second.toNat + carry.toNat = 16 * high + low := by
    omega
  have total : number first + number second + carry.toNat = 10 * high + low := by
    rw [Packed.number, Packed.number]
    omega
  rw [sum] at result
  have adjusted : cpu.decimalAdjust.a.toNat =
      16 * ((10 * high + low) % 100 / 10) + (10 * high + low) % 10 := by
    rw [toNat_a_decimalAdjust, toNat_decimalCorrection, described.carry, described.auxCarry,
      result]
    simp only [Calculation.sum, ← lowSum, sum, decide_eq_true_eq]
    exact adjusted_digits high (by omega) low (by omega)
  rw [total]
  constructor
  case digits =>
    rw [IsDigits, adjusted]
    omega
  case number =>
    rw [Packed.number, adjusted]
    omega
  case carry =>
    rw [carry_decimalAdjust, described.carry, result, Bool.eq_iff_iff]
    simp only [Calculation.sum, sum, Bool.or_eq_true, decide_eq_true_eq]
    omega

end Cabinet.Cpu
