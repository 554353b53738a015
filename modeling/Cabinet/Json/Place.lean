import Cabinet.Text.Ascii

/-!
# Places in a text

A message about a text may end with the place where reading stopped. Lines are
counted from one, so a place on line zero is no place and is not written.
-/

namespace Cabinet.Json

/-- A line and a column of a text. -/
structure Place where
  line : Nat
  column : Nat
deriving DecidableEq, Inhabited

namespace Place

/-- The digits at the end of a text behind what stands before them. -/
def splitDigits (text : List Char) : List Char × List Char :=
  ((text.reverse.dropWhile Char.isDigit).reverse, (text.reverse.takeWhile Char.isDigit).reverse)

/-- The number at the end of a text behind what stands before it; it has to fit 64 bits. -/
def splitNumber? (text : List Char) : Option (List Char × Nat) := do
  let (front, digits) := splitDigits text
  let number ← Text.natural? digits
  if number < UInt64.size then some (front, number) else none

/-- The place at the end of a message behind what the message says. -/
def split? (message : List Char) : Option (List Char × Place) := do
  let (front, column) ← splitNumber? message
  let front ← " column ".toList.isSuffixOf? front
  let (front, line) ← splitNumber? front
  let front ← " at line ".toList.isSuffixOf? front
  return (front, ⟨line, column⟩)

/-- How a place is written behind a message. -/
def text (place : Place) : String :=
  if place.line = 0 then "" else s!" at line {place.line} column {place.column}"

/-- A message whose place, if it ends with one, is written in this way. -/
def settle (message : String) : String :=
  match split? message.toList with
  | some (front, place) => String.ofList front ++ place.text
  | none => message

end Place

end Cabinet.Json
