import Cabinet.Effect
import Cabinet.Json.Reader

/-!
# The shift register

Bytes enter a sixteen-bit register at its high end and push the older byte down;
reading gives eight of its bits, starting as many bits below the top as the
offset says. Programs use it to place pictures at any column.
-/

namespace Cabinet

/-- The register, and how far below its top the window begins. -/
structure Shifter where
  value : UInt16 := 0
  offset : UInt8 := 0
deriving DecidableEq, Inhabited

namespace Shifter

/-- Choose the window; only the low three bits of the byte count. -/
def setOffset (shifter : Shifter) (value : UInt8) : Shifter :=
  { shifter with offset := value &&& 7 }

/-- Shift a byte in at the high end. -/
def push (shifter : Shifter) (value : UInt8) : Shifter :=
  { shifter with value := value.toUInt16 <<< 8 ||| shifter.value >>> 8 }

/-- The eight bits in the window. -/
def result (shifter : Shifter) : UInt8 :=
  (shifter.value >>> (8 - shifter.offset).toUInt16).toUInt8

/-- Look through the window; a saved state can put it where it has no place. -/
def window (shifter : Shifter) : Except Panic UInt8 :=
  if shifter.offset ≤ 8 then .ok shifter.result else .error .subtraction

def toJson (shifter : Shifter) : Json :=
  .object [
    ("offset", .ofNat shifter.offset.toNat),
    ("value", .ofNat shifter.value.toNat)]

open Json (Field Reader)

def fields : List Field :=
  [.needed "value" Reader.uint16, .needed "offset" Reader.uint8]

def reader : Reader Shifter := fun node => do
  let given ← Json.Fields.read "ShiftRegister" fields node
  return {
    value := ← given.required "value" Reader.uint16
    offset := ← given.required "offset" Reader.uint8 }

end Shifter

end Cabinet
