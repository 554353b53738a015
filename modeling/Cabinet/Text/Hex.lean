/-!
# Hexadecimal text

Bytes are written with two digits and words with four, in upper case. Reading
accepts either case and needs an even number of digits.
-/

namespace Cabinet.Hex

/-- The digit for a value below sixteen. -/
def digit (value : Nat) : Char :=
  if value < 10 then Char.ofNat (48 + value) else Char.ofNat (55 + value)

/-- Two digits, the high one first. -/
def byteDigits (value : UInt8) : List Char :=
  [digit (value.toNat / 16), digit (value.toNat % 16)]

def byte (value : UInt8) : String :=
  String.ofList (byteDigits value)

def word (value : UInt16) : String :=
  String.ofList (byteDigits (value >>> 8).toUInt8 ++ byteDigits value.toUInt8)

/-- The value of one digit, of either case. -/
def digitValue? (c : Char) : Option Nat :=
  if '0' ≤ c ∧ c ≤ '9' then some (c.toNat - 48)
  else if 'A' ≤ c ∧ c ≤ 'F' then some (c.toNat - 55)
  else if 'a' ≤ c ∧ c ≤ 'f' then some (c.toNat - 87)
  else none

/-- Read pairs of digits; a lone digit or any other character is refused. -/
def readDigits? : List Char → Option (List UInt8)
  | [] => some []
  | [_] => none
  | high :: low :: rest => do
      let high ← digitValue? high
      let low ← digitValue? low
      let rest ← readDigits? rest
      return UInt8.ofNat (16 * high + low) :: rest

theorem digitValue?_digit {value : Nat} (bound : value < 16) :
    digitValue? (digit value) = some value := by
  revert value
  decide

theorem readDigits?_byteDigits (value : UInt8) (rest : List Char) :
    readDigits? (byteDigits value ++ rest) = (readDigits? rest).map (value :: ·) := by
  have high : value.toNat / 16 < 16 := by have := value.toNat_lt; omega
  have low : value.toNat % 16 < 16 := by omega
  have sum : UInt8.ofNat (16 * (value.toNat / 16) + value.toNat % 16) = value := by
    rw [Nat.div_add_mod, UInt8.ofNat_toNat]
  rw [UInt8.ofNat_add, UInt8.ofNat_mul] at sum
  cases tail : readDigits? rest with
  | none =>
      simp [byteDigits, readDigits?, digitValue?_digit high, digitValue?_digit low, tail]
  | some values =>
      simpa [byteDigits, readDigits?, digitValue?_digit high, digitValue?_digit low, tail] using sum

/-- Reading takes back what writing produced. -/
theorem readDigits?_flatMap (values : List UInt8) :
    readDigits? (values.flatMap byteDigits) = some values := by
  induction values with
  | nil => rfl
  | cons value values ih => simp [readDigits?_byteDigits, ih]

end Cabinet.Hex
