import Cabinet.Proofs.Picture.Rotation
import Mathlib.Data.Nat.Bitwise

/-!
# The bits of packed pictures

Every pixel of a packed picture is held by bits of its own: from the place of a bit
in the picture follows the pixel that it is held for. The only bits without a pixel
are those behind the last pixel of a stored row.
-/

namespace Cabinet

namespace Memory

/-- A bit of memory; the least significant one of a byte is at place 0. -/
structure Bit where
  address : UInt16
  place : Fin 8

def bit (memory : Memory) (bit : Bit) : Bool :=
  (memory.read bit.address).toNat.testBit bit.place

/-- The memory with these bits. -/
def ofBits (bits : Bit → Bool) : Memory :=
  ⟨Vector.ofFn fun address : Fin 65536 =>
    UInt8.ofNat (Nat.ofBits fun place : Fin 8 => bits ⟨UInt16.ofNat address, place⟩)⟩

theorem read_ofBits (bits : Bit → Bool) (address : UInt16) :
    (ofBits bits).read address =
      UInt8.ofNat (Nat.ofBits fun place : Fin 8 => bits ⟨address, place⟩) := by
  rw [read, ofBits, Vector.getElem_ofFn, UInt16.ofNat_toNat]

theorem bit_ofBits (bits : Bit → Bool) (bit : Bit) : (ofBits bits).bit bit = bits bit := by
  rw [Memory.bit, read_ofBits, UInt8.toNat_ofNat', Nat.mod_eq_of_lt (Nat.ofBits_lt_two_pow _),
    Nat.testBit_ofBits_lt _ _ bit.place.isLt]

theorem bit_write_of_ne (memory : Memory) {address : UInt16} (value : UInt8) {bit : Bit}
    (apart : address ≠ bit.address) : (memory.write address value).bit bit = memory.bit bit := by
  rw [Memory.bit, Memory.bit, read_write_of_ne memory value apart]

end Memory

namespace Picture

/-! ## The bits of a byte -/

/-- Which pixel of its byte a bit belongs to. -/
def position (bits : Nat) (place : Fin 8) : Nat :=
  (7 - place.val) / bits

section Byte

variable {bits : Nat}

theorem bits_pos (depth : bits = 1 ∨ bits = 2) : 0 < bits := by
  rcases depth with rfl | rfl <;> decide

theorem pixelsPerByte_pos (depth : bits = 1 ∨ bits = 2) : 0 < pixelsPerByte bits := by
  rcases depth with rfl | rfl <;> decide

theorem position_lt (depth : bits = 1 ∨ bits = 2) (place : Fin 8) :
    position bits place < pixelsPerByte bits := by
  rcases depth with rfl | rfl <;> revert place <;> decide

/-- The bits of a pixel are consecutive, and their number in the value is the remainder. -/
theorem shift_add_mod (depth : bits = 1 ∨ bits = 2) (place : Fin 8) :
    8 - bits - position bits place * bits + place.val % bits = place.val := by
  rcases depth with rfl | rfl <;> revert place <;> decide

theorem exists_place (depth : bits = 1 ∨ bits = 2) {pixel number : Nat}
    (inByte : pixel < pixelsPerByte bits) (inValue : number < bits) :
    ∃ place : Fin 8, position bits place = pixel ∧ place.val % bits = number := by
  rcases depth with rfl | rfl
  · have small : pixel < 8 := inByte
    refine ⟨⟨7 - pixel, by omega⟩, ?_, ?_⟩
    · simp only [position]
      omega
    · simp only
      omega
  · have small : pixel < 4 := inByte
    refine ⟨⟨6 - 2 * pixel + number, by omega⟩, ?_, ?_⟩
    · simp only [position]
      omega
    · simp only
      omega

theorem field_lt (byte : UInt8) (pixel : Nat) : field bits byte pixel < 2 ^ bits :=
  Nat.mod_lt _ (Nat.two_pow_pos bits)

theorem testBit_field (byte : UInt8) (pixel number : Nat) :
    (field bits byte pixel).testBit number =
      (decide (number < bits) && byte.toNat.testBit (8 - bits - pixel * bits + number)) := by
  change (byte.toNat / 2 ^ (8 - bits - pixel * bits) % 2 ^ bits).testBit number = _
  rw [Nat.testBit_mod_two_pow, Nat.testBit_div_two_pow, Nat.add_comm]

/-- A pixel has a value if the bits of the pixel are those of the value. -/
theorem field_eq_iff (depth : bits = 1 ∨ bits = 2) {byte : UInt8} {pixel value : Nat}
    (inByte : pixel < pixelsPerByte bits) (small : value < 2 ^ bits) :
    field bits byte pixel = value ↔ ∀ place : Fin 8, position bits place = pixel →
      byte.toNat.testBit place = value.testBit (place % bits) := by
  constructor
  · rintro rfl place rfl
    rw [testBit_field, shift_add_mod depth, decide_eq_true (Nat.mod_lt _ (bits_pos depth)),
      Bool.true_and]
  · intro same
    apply Nat.eq_of_testBit_eq
    intro number
    rw [testBit_field]
    by_cases inValue : number < bits
    · obtain ⟨place, rfl, rfl⟩ := exists_place depth inByte inValue
      rw [shift_add_mod depth, decide_eq_true inValue, Bool.true_and, same place rfl]
    · have above : value < 2 ^ number :=
        Nat.lt_of_lt_of_le small (Nat.pow_le_pow_right Nat.two_pos (Nat.le_of_not_lt inValue))
      rw [decide_eq_false inValue, Bool.false_and, Nat.testBit_lt_two_pow above]

end Byte

/-! ## Places on the unrotated screen -/

/-- Where a place of the unrotated screen is shown. -/
def rotate (rotation : UInt16) (width height column row : Nat) : Nat × Nat :=
  if rotation = 90 then (row, height - 1 - column)
  else if rotation = 180 then (width - 1 - column, height - 1 - row)
  else if rotation = 270 then (width - 1 - row, column)
  else (column, row)

theorem rotate_unrotate (rotation : UInt16) {width height x y : Nat} (inRow : x < width)
    (inColumn : y < height) :
    rotate rotation width height (unrotate rotation width height x y).1
      (unrotate rotation width height x y).2 = (x, y) := by
  have back := Nat.sub_sub_self (Nat.le_sub_one_of_lt inRow)
  have up := Nat.sub_sub_self (Nat.le_sub_one_of_lt inColumn)
  unfold rotate unrotate
  split_ifs
  · exact Prod.ext rfl up
  · exact Prod.ext back up
  · exact Prod.ext back rfl
  · rfl

theorem unrotate_rotate (rotation : UInt16) {width height column row : Nat}
    (inRow : column < rowPixels rotation width height)
    (inColumn : row < storedRows rotation width height) :
    (rotate rotation width height column row).1 < width ∧
      (rotate rotation width height column row).2 < height ∧
      unrotate rotation width height (rotate rotation width height column row).1
        (rotate rotation width height column row).2 = (column, row) := by
  by_cases quarter : rotation = 90
  · subst quarter
    exact ⟨inColumn, Nat.sub_one_sub_lt_of_lt inRow,
      Prod.ext (Nat.sub_sub_self (Nat.le_sub_one_of_lt inRow)) rfl⟩
  · by_cases half : rotation = 180
    · subst half
      exact ⟨Nat.sub_one_sub_lt_of_lt inRow, Nat.sub_one_sub_lt_of_lt inColumn,
        Prod.ext (Nat.sub_sub_self (Nat.le_sub_one_of_lt inRow))
          (Nat.sub_sub_self (Nat.le_sub_one_of_lt inColumn))⟩
    · by_cases threeQuarters : rotation = 270
      · subst threeQuarters
        exact ⟨Nat.sub_one_sub_lt_of_lt inColumn, inRow,
          Prod.ext rfl (Nat.sub_sub_self (Nat.le_sub_one_of_lt inColumn))⟩
      · simp only [rowPixels, quarter, threeQuarters, or_self, ↓reduceIte] at inRow
        simp only [storedRows, quarter, threeQuarters, or_self, ↓reduceIte] at inColumn
        simp only [rotate, unrotate, quarter, half, threeQuarters, ↓reduceIte]
        exact ⟨inRow, inColumn, trivial⟩

section Screen

variable (display : Display)

/-- The number of pixels in a stored row of a screen. -/
def rowLength : Nat :=
  rowPixels display.rotation display.width.toNat display.height.toNat

/-- The number of bytes in a stored row of a screen. -/
def rowBytes (bits : Nat) : Nat :=
  stride bits (rowLength display)

/-- The number of stored rows of a screen. -/
def rowCount : Nat :=
  storedRows display.rotation display.width.toNat display.height.toNat

theorem packedSize_eq (bits : Nat) :
    packedSize display bits = rowCount display * rowBytes display bits := rfl

theorem pixelOffset_eq (bits index : Nat) :
    pixelOffset display bits index = (storedPlace display index).2 * rowBytes display bits +
      (storedPlace display index).1 / pixelsPerByte bits := rfl

/-- The pixel that is shown from a place of the unrotated screen. -/
def pixelAt (place : Nat × Nat) : Nat :=
  let width := display.width.toNat
  let (x, y) := rotate display.rotation width display.height.toNat place.1 place.2
  y * width + x

variable {display}

theorem pixelAt_storedPlace {index : Nat}
    (inside : index < display.width.toNat * display.height.toNat) :
    pixelAt display (storedPlace display index) = index := by
  have inRow : index % display.width.toNat < display.width.toNat :=
    Nat.mod_lt _ (Nat.pos_of_lt_mul_right inside)
  have back := rotate_unrotate display.rotation inRow (Nat.div_lt_of_lt_mul inside)
  rw [pixelAt, storedPlace, back]
  exact Nat.div_add_mod' index display.width.toNat

theorem storedPlace_pixelAt {column row : Nat} (inRow : column < rowLength display)
    (inColumn : row < rowCount display) :
    pixelAt display (column, row) < display.width.toNat * display.height.toNat ∧
      storedPlace display (pixelAt display (column, row)) = (column, row) := by
  obtain ⟨shownRow, shownColumn, back⟩ := unrotate_rotate display.rotation inRow inColumn
  let screen := Frame.blank display.width display.height
  have inside : screen.index _ _ < display.width.toNat * display.height.toNat :=
    Frame.index_lt shownRow shownColumn
  have width : screen.width = display.width := rfl
  exact ⟨inside, (storedPlace_index width shownRow).trans back⟩

end Screen

/-! ## The bits of a pixel -/

/-- The bits that hold a pixel. -/
structure PixelBit (display : Display) (start : UInt16) (bits index : Nat) (bit : Memory.Bit) :
    Prop where
  address : bit.address = pixelAddress display start bits index
  position : position bits bit.place = (storedPlace display index).1 % pixelsPerByte bits

/-- The bits of a packed picture without the padding behind the last pixel of each stored row. -/
def BitmapBit (display : Display) (start : UInt16) (bits : Nat) (bit : Memory.Bit) : Prop :=
  ∃ offset < packedSize display bits, bit.address = start + UInt16.ofNat offset ∧
    offset % rowBytes display bits * pixelsPerByte bits + position bits bit.place <
      rowLength display

/-- The place of the unrotated screen that a bit is held for. -/
def bitPlace (display : Display) (start : UInt16) (bits : Nat) (bit : Memory.Bit) : Nat × Nat :=
  let offset := (bit.address - start).toNat
  (offset % rowBytes display bits * pixelsPerByte bits + position bits bit.place,
    offset / rowBytes display bits)

/-- The pixel that a bit is held for. -/
def pixelOf (display : Display) (start : UInt16) (bits : Nat) (bit : Memory.Bit) : Nat :=
  pixelAt display (bitPlace display start bits bit)

section Layout

variable {display : Display} {start : UInt16} {bits : Nat}

theorem toNat_offset {offset : Nat} (fits : offset < 65536) :
    (start + UInt16.ofNat offset - start).toNat = offset := by
  rw [UInt16.add_comm, UInt16.add_sub_cancel, UInt16.toNat_ofNat', Nat.mod_eq_of_lt fits]

theorem bitPlace_eq (depth : bits = 1 ∨ bits = 2) (fits : packedSize display bits ≤ 65536)
    {index : Nat} (inside : index < display.width.toNat * display.height.toNat)
    {bit : Memory.Bit} (holds : PixelBit display start bits index bit) :
    bitPlace display start bits bit = storedPlace display index := by
  have some := pixelsPerByte_pos depth
  have offset : (bit.address - start).toNat = pixelOffset display bits index := by
    rw [holds.address, pixelAddress, toNat_offset]
    exact Nat.lt_of_lt_of_le (pixelOffset_lt some inside) fits
  have inStored : (storedPlace display index).1 / pixelsPerByte bits < rowBytes display bits :=
    div_lt_stride some (storedPlace_lt inside).1
  have inByte : pixelOffset display bits index % rowBytes display bits =
      (storedPlace display index).1 / pixelsPerByte bits := by
    rw [pixelOffset_eq, Nat.mul_add_mod_self_right, Nat.mod_eq_of_lt inStored]
  have row : pixelOffset display bits index / rowBytes display bits =
      (storedPlace display index).2 := by
    rw [pixelOffset_eq, Nat.mul_comm, Nat.mul_add_div (Nat.zero_lt_of_lt inStored),
      Nat.div_eq_of_lt inStored, Nat.add_zero]
  rw [bitPlace, offset, inByte, row, holds.position, Nat.div_add_mod']

/-- A bit is held for one pixel at most. -/
theorem pixelOf_eq (depth : bits = 1 ∨ bits = 2) (fits : packedSize display bits ≤ 65536)
    {index : Nat} (inside : index < display.width.toNat * display.height.toNat)
    {bit : Memory.Bit} (holds : PixelBit display start bits index bit) :
    pixelOf display start bits bit = index := by
  rw [pixelOf, bitPlace_eq depth fits inside holds, pixelAt_storedPlace inside]

theorem bitmapBit_of_pixelBit (depth : bits = 1 ∨ bits = 2)
    (fits : packedSize display bits ≤ 65536) {index : Nat}
    (inside : index < display.width.toNat * display.height.toNat) {bit : Memory.Bit}
    (holds : PixelBit display start bits index bit) : BitmapBit display start bits bit := by
  have bound := pixelOffset_lt (pixelsPerByte_pos depth) inside
  have column := (storedPlace_lt inside).1
  rw [← bitPlace_eq depth fits inside holds, bitPlace, holds.address, pixelAddress,
    toNat_offset (Nat.lt_of_lt_of_le bound fits)] at column
  exact ⟨_, bound, holds.address, column⟩

/-- The bits that are not padding hold pixels. -/
theorem pixelBit_pixelOf (depth : bits = 1 ∨ bits = 2) (fits : packedSize display bits ≤ 65536)
    {bit : Memory.Bit} (inBitmap : BitmapBit display start bits bit) :
    pixelOf display start bits bit < display.width.toNat * display.height.toNat ∧
      PixelBit display start bits (pixelOf display start bits bit) bit := by
  obtain ⟨offset, bound, address, inRow⟩ := inBitmap
  have place : bitPlace display start bits bit =
      (offset % rowBytes display bits * pixelsPerByte bits + position bits bit.place,
        offset / rowBytes display bits) := by
    rw [bitPlace, address, toNat_offset (Nat.lt_of_lt_of_le bound fits)]
  have inColumn : offset / rowBytes display bits < rowCount display := by
    rw [packedSize_eq, Nat.mul_comm] at bound
    exact Nat.div_lt_of_lt_mul bound
  obtain ⟨inside, stored⟩ := storedPlace_pixelAt inRow inColumn
  rw [← place] at inside stored
  have small := position_lt depth bit.place
  refine ⟨inside, ?_, ?_⟩
  · rw [pixelAddress, pixelOffset_eq, pixelOf, stored, place, address]
    congr 2
    calc offset
        = offset / rowBytes display bits * rowBytes display bits +
            offset % rowBytes display bits := (Nat.div_add_mod' _ _).symm
      _ = _ := by
        rw [Nat.mul_comm (offset % _), Nat.mul_add_div (pixelsPerByte_pos depth),
          Nat.div_eq_of_lt small, Nat.add_zero]
  · rw [pixelOf, stored, place, Nat.mul_add_mod_self_right, Nat.mod_eq_of_lt small]

/-- The stored value of a pixel is in its bits. -/
theorem pixelValue_eq_iff (depth : bits = 1 ∨ bits = 2) {memory : Memory} {index value : Nat}
    (small : value < 2 ^ bits) :
    pixelValue display memory start bits index = value ↔
      ∀ bit, PixelBit display start bits index bit →
        memory.bit bit = value.testBit (bit.place % bits) := by
  have inByte := Nat.mod_lt (storedPlace display index).1 (pixelsPerByte_pos depth)
  rw [pixelValue, field_eq_iff depth inByte small]
  constructor
  · rintro same ⟨_, place⟩ ⟨rfl, here⟩
    exact same place here
  · intro same place here
    exact same ⟨_, place⟩ ⟨rfl, here⟩

theorem pixelValue_lt (memory : Memory) (index : Nat) :
    pixelValue display memory start bits index < 2 ^ bits :=
  field_lt _ _

theorem pixelValue_eq_pixelValue_iff (depth : bits = 1 ∨ bits = 2) {first second : Memory}
    {index : Nat} :
    pixelValue display first start bits index = pixelValue display second start bits index ↔
      ∀ bit, PixelBit display start bits index bit → first.bit bit = second.bit bit := by
  rw [pixelValue_eq_iff depth (pixelValue_lt second index)]
  refine forall₂_congr fun bit holds => ?_
  rw [(pixelValue_eq_iff depth (pixelValue_lt second index)).mp rfl bit holds]

/-- The bits that are not padding decide the stored values and are decided by them. -/
theorem pixelValues_eq_iff (depth : bits = 1 ∨ bits = 2)
    (fits : packedSize display bits ≤ 65536) {first second : Memory} :
    (∀ index < display.width.toNat * display.height.toNat,
        pixelValue display first start bits index = pixelValue display second start bits index) ↔
      ∀ bit, BitmapBit display start bits bit → first.bit bit = second.bit bit := by
  constructor
  · intro same bit inBitmap
    obtain ⟨inside, holds⟩ := pixelBit_pixelOf depth fits inBitmap
    exact (pixelValue_eq_pixelValue_iff depth).mp (same _ inside) bit holds
  · intro same index inside
    rw [pixelValue_eq_pixelValue_iff depth]
    intro bit holds
    exact same bit (bitmapBit_of_pixelBit depth fits inside holds)

/-- A memory that stores these values. -/
def storing (display : Display) (start : UInt16) (bits : Nat) (values : Nat → Nat) : Memory :=
  .ofBits fun bit => (values (pixelOf display start bits bit)).testBit (bit.place % bits)

theorem pixelValue_storing (depth : bits = 1 ∨ bits = 2) (fits : packedSize display bits ≤ 65536)
    {values : Nat → Nat} {index : Nat} (small : values index < 2 ^ bits)
    (inside : index < display.width.toNat * display.height.toNat) :
    pixelValue display (storing display start bits values) start bits index = values index := by
  rw [pixelValue_eq_iff depth small]
  intro bit holds
  rw [storing, Memory.bit_ofBits, pixelOf_eq depth fits inside holds]

end Layout

end Picture

end Cabinet
