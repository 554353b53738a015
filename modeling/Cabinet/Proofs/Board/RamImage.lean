import Cabinet.Board.Save
import Cabinet.Proofs.Memory

/-!
# Images of memory regions

A saved state brings its images into memory one after the other. An address that
one of them covers then holds a byte that they decide alone, whichever of them
comes last; every other address keeps its byte.
-/

namespace Cabinet

namespace RamImage

/-- An image covers an address for each of its bytes, past the last address if it is long. -/
def Covers (image : RamImage) (address : UInt16) : Prop :=
  Memory.InBlock image.start image.bytes.length address

theorem overwrites_place (image : RamImage) :
    Memory.Overwrites image.Covers fun memory => image.place memory :=
  Memory.overwrites_load image.start image.bytes

theorem overwrites_images (images : List RamImage) :
    Memory.Overwrites (fun address => ∃ image ∈ images, image.Covers address) fun memory =>
      images.foldl place memory :=
  Memory.overwrites_foldl overwrites_place images

/-- The bytes of an image, each with the address that it goes to. -/
def writes (image : RamImage) : List (UInt16 × UInt8) :=
  Memory.addressed image.start image.bytes

theorem place_images_eq_store (memory : Memory) (images : List RamImage) :
    images.foldl place memory = memory.store (images.flatMap writes) := by
  induction images generalizing memory with
  | nil => rfl
  | cons image images ih =>
      rw [List.foldl_cons, ih, List.flatMap_cons, Memory.store_append, writes,
        ← Memory.load_eq_store]
      rfl

end RamImage

end Cabinet
