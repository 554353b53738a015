import Cabinet.Effect
import Cabinet.Json.Reader

/-!
# Frames

A picture as rows of values, one after another from the top left. Monochrome
boards store brightness, colour boards palette entries. Places outside the
picture cannot be set and hold nothing. The place of a value is calculated in 32
bits, and a frame that was read from a text can hold fewer values than it has
places: looking for a place that has no number or no value is a panic.
-/

namespace Cabinet

structure Frame where
  width : UInt32
  height : UInt32
  pixels : Array UInt32
deriving DecidableEq, Inhabited

/--
How the values of a frame are meant to be shown: the clockwise rotation of the
screen in the cabinet, in degrees, and whether the values are palette entries.
-/
structure DisplayInfo where
  rotation : UInt16
  color : Bool
deriving DecidableEq, Inhabited

namespace Frame

/-- A frame of zeros, one for each place. -/
def new (width height : UInt32) : Except Panic Frame := do
  let count ← Checked.mul width height
  return ⟨width, height, Array.replicate count.toNat 0⟩

/-- Which value is that of column `x` of row `y`. -/
def slot (frame : Frame) (x y : UInt32) : Except Panic Nat := do
  let row ← Checked.mul y frame.width
  let place ← Checked.add row x
  return place.toNat

def store (frame : Frame) (x y value : UInt32) : Except Panic Frame := do
  if x < frame.width ∧ y < frame.height then
    let slot ← frame.slot x y
    if there : slot < frame.pixels.size then
      return { frame with pixels := frame.pixels.set slot value there }
    else throw (.index frame.pixels.size slot)
  else return frame

def fetch (frame : Frame) (x y : UInt32) : Except Panic (Option UInt32) := do
  if x < frame.width ∧ y < frame.height then
    let slot ← frame.slot x y
    if there : slot < frame.pixels.size then return some frame.pixels[slot]
    else throw (.index frame.pixels.size slot)
  else return none

/-! ## The whole picture -/

/-- Turn the picture by half a circle. -/
def flip (frame : Frame) : Frame :=
  { frame with pixels := frame.pixels.reverse }

/-- The number of values that are not zero. -/
def litCount (frame : Frame) : Nat :=
  frame.pixels.countP (· != 0)

/-! ## JSON -/

def toJson (frame : Frame) : Json :=
  .object [
    ("height", .ofNat frame.height.toNat),
    ("pixels", .array (frame.pixels.toList.map fun value => .ofNat value.toNat)),
    ("width", .ofNat frame.width.toNat)]

open Json (Field Reader)

def fields : List Field := [
  .needed "width" Reader.uint32,
  .needed "height" Reader.uint32,
  .needed "pixels" (Reader.list Reader.uint32)]

def reader : Reader Frame := fun node => do
  let given ← Json.Fields.read "Frame" fields node
  return {
    width := ← given.required "width" Reader.uint32
    height := ← given.required "height" Reader.uint32
    pixels := (← given.required "pixels" (Reader.list Reader.uint32)).toArray }

end Frame

namespace DisplayInfo

def toJson (info : DisplayInfo) : Json :=
  .object [("color", .bool info.color), ("rotation", .ofNat info.rotation.toNat)]

open Json (Field Reader)

def fields : List Field :=
  [.needed "rotation" Reader.uint16, .needed "color" Reader.bool]

def reader : Reader DisplayInfo := fun node => do
  let given ← Json.Fields.read "DisplayInfo" fields node
  return {
    rotation := ← given.required "rotation" Reader.uint16
    color := ← given.required "color" Reader.bool }

end DisplayInfo

end Cabinet
