import Cabinet.Json.Basic

/-!
# Numbers in a text

A number is scanned by its grammar: sign, whole part without leading zeros,
optional fraction, optional exponent. Its value comes from the parts. A number
without fraction and exponent that fits 64 bits is an integer; any other one,
and minus zero, is a double. As many leading digits as fit 64 bits make the
significand, which is then scaled by a power of ten in double arithmetic; a
result beyond the doubles is refused.
-/

namespace Cabinet.Json

/--
The outcome of scanning: a value and what follows, or the fault found when the text is read
for its value and the one found when it is only skipped.
-/
inductive Scan (α : Type) where
  | done (value : α) (rest : List Char)
  | fault (whenRead whenSkipped : Fault)

/-- The digits of a number by their place, and which of the number and its exponent are negative. -/
structure NumberText where
  negative : Bool
  whole : List Char
  fraction : Option (List Char)
  exponent : Option (Bool × List Char)

namespace NumberText

/-- A fault where a digit is missing: the text may have ended there. -/
def noDigit {α : Type} : List Char → Scan α
  | [] => .fault .truncated .malformed
  | _ :: _ => .fault .malformed .malformed

/-- One or more digits. -/
def scanDigits (text : List Char) : Scan (List Char) :=
  match text.span Char.isDigit with
  | ([], rest) => noDigit rest
  | (digits, rest) => .done digits rest

/-- The whole part: zero alone, or digits that do not begin with zero. -/
def scanWhole (text : List Char) : Scan (List Char) :=
  match scanDigits text with
  | .done ('0' :: _ :: _) _ => .fault .malformed .malformed
  | other => other

def scanFraction : List Char → Scan (Option (List Char))
  | '.' :: rest =>
      match scanDigits rest with
      | .done digits rest => .done (some digits) rest
      | .fault whenRead whenSkipped => .fault whenRead whenSkipped
  | text => .done none text

/-- The sign of an exponent, if there is one. -/
def exponentSign : List Char → Bool × List Char
  | '+' :: rest => (false, rest)
  | '-' :: rest => (true, rest)
  | text => (false, text)

def scanExponent : List Char → Scan (Option (Bool × List Char))
  | mark :: rest =>
      if mark = 'e' ∨ mark = 'E' then
        let (negative, rest) := exponentSign rest
        match scanDigits rest with
        | .done digits rest => .done (some (negative, digits)) rest
        | .fault whenRead whenSkipped => .fault whenRead whenSkipped
      else .done none (mark :: rest)
  | [] => .done none []

/-- Scan a number that begins at the head of the text. -/
def scan (text : List Char) : Scan NumberText :=
  let (negative, text) := match text with
    | '-' :: rest => (true, rest)
    | other => (false, other)
  match scanWhole text with
  | .fault whenRead whenSkipped => .fault whenRead whenSkipped
  | .done whole rest =>
      match scanFraction rest with
      | .fault whenRead whenSkipped => .fault whenRead whenSkipped
      | .done fraction rest =>
          match scanExponent rest with
          | .fault whenRead whenSkipped => .fault whenRead whenSkipped
          | .done exponent rest => .done { negative, whole, fraction, exponent } rest

def digitValue (digit : Char) : Nat :=
  digit.toNat - 48

/-- The value of a run of digits. -/
def digitsValue (digits : List Char) : Nat :=
  digits.foldl (fun value digit => 10 * value + digitValue digit) 0

/-- The bound of unsigned 64-bit integers. -/
def wordBound : Nat := UInt64.size

/--
Append digits to a significand while it stays below the bound, with the number
of digits taken.
-/
def appendDigits (significand taken : Nat) : List Char → Nat × Nat
  | [] => (significand, taken)
  | digit :: rest =>
      let longer := 10 * significand + digitValue digit
      if longer < wordBound then appendDigits longer (taken + 1) rest else (significand, taken)

/-- Divide by a power of ten in steps that doubles can hold. -/
def scaleDown (value : Float) (places : Nat) : Float :=
  if places ≤ 308 then value / Float.ofScientific 1 false places
  else if value == 0.0 then value
  else scaleDown (value / Float.ofScientific 1 false 308) (places - 308)
termination_by places

/-- A significand times a power of ten, unless it is beyond the doubles. -/
def scale (significand : Nat) (exponent : Int) : Except Fault Float :=
  let value := (UInt64.ofNat significand).toFloat
  match exponent with
  | .ofNat places =>
      if places ≤ 308 then
        let product := value * Float.ofScientific 1 false places
        if product.isInf then .error .malformed else .ok product
      else if value == 0.0 then .ok value
      else .error .malformed
  | .negSucc places => .ok (scaleDown value (places + 1))

/-- The bound that exponents are held to. -/
def exponentBound : Nat := Nat.pow 2 31

/-- The double that the parts denote, without the sign. -/
def magnitude (number : NumberText) : Except Fault Float :=
  let (significand, taken) := appendDigits 0 0 number.whole
  let (significand, places) := appendDigits significand 0 (number.fraction.getD [])
  let start : Int := (number.whole.length : Int) - taken - places
  match number.exponent with
  | none => scale significand start
  | some (negative, digits) =>
      let size := digitsValue digits
      if exponentBound ≤ size then
        if significand ≠ 0 ∧ !negative then .error .malformed else .ok 0.0
      else if negative then scale significand (max (start - size) (-(exponentBound : Int)))
      else scale significand (min (start + size) ((exponentBound : Int) - 1))

/-- The double that the parts denote. -/
def double (number : NumberText) : Except Fault Float := do
  let size ← number.magnitude
  return if number.negative then -size else size

/-- The number that the parts denote. -/
def value (number : NumberText) : Except Fault Number :=
  let size := digitsValue number.whole
  let plain := number.fraction.isNone && number.exponent.isNone
  if plain && !number.negative && decide (size < wordBound) then .ok (.integer size)
  else if plain && number.negative && decide (0 < size ∧ 2 * size ≤ wordBound) then
    .ok (.integer (-(size : Int)))
  else number.double.map .float

end NumberText

end Cabinet.Json
