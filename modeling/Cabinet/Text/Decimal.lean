/-!
# Shortest decimal text

The text of a double is the shortest decimal number that reads back as it, and
among those of that length the nearest. The search works on exact integers: a
positive double is a fraction whose neighbours bound the numbers that round to
it.
-/

namespace Cabinet.Decimal

/-- The number of decimal digits of a natural number; zero has one. -/
def digitCount (value : Nat) : Nat :=
  (Nat.toDigits 10 value).length

/-- The exponent of the leading decimal digit of a positive fraction. -/
def leadingExponent (numerator denominator : Nat) : Int :=
  if denominator ≤ numerator then (digitCount (numerator / denominator) : Int) - 1
  else -(digitCount ((denominator - 1) / numerator) : Int)

/--
The fractions that round to one double, over a common denominator. They are `closed` if the
two ends round to the double as well.
-/
structure Interval where
  low : Nat
  value : Nat
  high : Nat
  denominator : Nat
  closed : Bool

namespace Interval

/-- The interval of a positive double from its exponent and fraction fields. -/
def ofFields (exponent fraction : Nat) : Interval :=
  let mantissa := if exponent = 0 then fraction else fraction + Nat.pow 2 52
  let power : Int := (if exponent = 0 then 1 else (exponent : Int)) - 1075 - 2
  let below := if fraction = 0 ∧ 1 < exponent then 1 else 2
  let scale := Nat.pow 2 power.toNat
  { low := (4 * mantissa - below) * scale
    value := 4 * mantissa * scale
    high := (4 * mantissa + 2) * scale
    denominator := Nat.pow 2 (-power).toNat
    closed := mantissa % 2 = 0 }

/-- Whether `count` times ten to the `exponent` lies in the interval. -/
def contains (interval : Interval) (count : Nat) (exponent : Int) : Bool :=
  let point := count * Nat.pow 10 exponent.toNat * interval.denominator
  let scale := Nat.pow 10 (-exponent).toNat
  if interval.closed then interval.low * scale ≤ point ∧ point ≤ interval.high * scale
  else interval.low * scale < point ∧ point < interval.high * scale

/--
The multiple of ten to the `exponent` in the interval that is nearest to the
value; of two equally near ones the even multiple.
-/
def nearest? (interval : Interval) (exponent : Int) : Option Nat :=
  let unit := Nat.pow 10 exponent.toNat * interval.denominator
  let scaled := interval.value * Nat.pow 10 (-exponent).toNat
  let floor := scaled / unit
  let rest := scaled % unit
  match interval.contains floor exponent, interval.contains (floor + 1) exponent with
  | true, true =>
      some (if 2 * rest < unit ∨ (2 * rest = unit ∧ floor % 2 = 0) then floor else floor + 1)
  | true, false => some floor
  | false, true => some (floor + 1)
  | false, false => none

/-- Try ever finer decimal grids, at most `tries` of them. -/
def search (interval : Interval) (exponent : Int) : (tries : Nat) → Nat × Int
  | 0 => (interval.value / interval.denominator, 0)
  | tries + 1 =>
      match interval.nearest? exponent with
      | some count => (count, exponent)
      | none => interval.search (exponent - 1) tries

/-- The shortest digits with the exponent of the last one. -/
def shortest (interval : Interval) : Nat × Int :=
  interval.search (leadingExponent interval.value interval.denominator) 18

end Interval

/-- Split off the trailing zeros of a digit list, given in reverse. -/
def dropZeros : List Char → List Char
  | '0' :: rest => dropZeros rest
  | digits => digits

/--
Write digits whose first one has the given exponent. Exponents from -5 to 15
are written out with a decimal point; others follow the digits, always with a
sign.
-/
def layout (digits : List Char) (exponent : Int) : List Char :=
  if -5 ≤ exponent ∧ exponent < 0 then
    '0' :: '.' :: List.replicate (-exponent - 1).toNat '0' ++ digits
  else if 0 ≤ exponent ∧ exponent ≤ 15 then
    let whole := exponent.toNat + 1
    if digits.length ≤ whole then
      digits ++ List.replicate (whole - digits.length) '0' ++ ['.', '0']
    else digits.take whole ++ '.' :: digits.drop whole
  else
    let mantissa := match digits with
      | first :: second :: rest => first :: '.' :: second :: rest
      | short => short
    mantissa ++ 'e' :: (if exponent < 0 then '-' else '+') :: Nat.toDigits 10 exponent.natAbs

/-- The text of a positive double from its exponent and fraction fields. -/
def positiveText (exponent fraction : Nat) : List Char :=
  let (count, last) := (Interval.ofFields exponent fraction).shortest
  let all := Nat.toDigits 10 count
  layout (dropZeros all.reverse).reverse (last + (all.length : Int) - 1)

/-- The text of a double; one that is not finite has no number and is written `null`. -/
def text (value : Float) : List Char :=
  let bits := value.toBits.toNat
  let sign := if bits / Nat.pow 2 63 = 0 then [] else ['-']
  let exponent := bits / Nat.pow 2 52 % Nat.pow 2 11
  let fraction := bits % Nat.pow 2 52
  if exponent = 2047 then "null".toList
  else if exponent = 0 ∧ fraction = 0 then sign ++ "0.0".toList
  else sign ++ positiveText exponent fraction

end Cabinet.Decimal
