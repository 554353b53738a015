import Cabinet.Preset
import Cabinet.Proofs.Footprint

/-!
# Turned screens

A packed picture is stored for the unrotated screen. So a screen that stands on
one of its sides shows what the same screen shows lying, each place at another
one, and a screen that is turned by half a circle shows everything at the place
across. That is also where a flipped picture shows it, in every format.
-/

namespace Cabinet.Picture

/-- What is shown with another size and rotation of the screen, and flipped or not. -/
def onScreen (config : Config) (memory : Memory) (devices : Devices) (width height : UInt32)
    (rotation : UInt16) (flipped : Bool) : Frame :=
  render { config with display := { config.display with width, height, rotation } } memory
    { devices with flipScreen := flipped }

/-- The picture region has packed pixels. -/
def PacksPixels (config : Config) : Prop :=
  ∃ region, config.memory.video = some region ∧ region.effectiveFormat ≠ .tilemap

/-! ## Places of packed pictures -/

section Packed

variable {display other : Display} (memory : Memory) (start : UInt16) (bits : Nat)
  (color : Nat → UInt32)

theorem storedPlace_index {frame : Frame} (width : frame.width = display.width) {x y : Nat}
    (inRow : x < display.width.toNat) :
    storedPlace display (frame.index x y) =
      unrotate display.rotation display.width.toNat display.height.toNat x y := by
  rw [← width] at inRow
  rw [storedPlace, ← width, Frame.index_mod inRow, Frame.index_div inRow]

/-- A place shows the value that is stored for it. -/
theorem get?_packed {x y : Nat} (inRow : x < display.width.toNat)
    (inColumn : y < display.height.toNat) :
    (packed display memory start bits color).get? x y =
      some (color (pixelValue display memory start bits
        ((packed display memory start bits color).index x y))) := by
  have inside : (packed display memory start bits color).index x y <
      display.width.toNat * display.height.toNat :=
    Frame.index_lt inRow inColumn
  rw [Frame.get?_of_inside inRow inColumn, getElem?_packed memory start bits color inside]

/-- Two screens with the same stored rows show the same values, each at its own place. -/
theorem moved_packed {place : Nat → Nat → Nat × Nat}
    (rows : rowPixels display.rotation display.width.toNat display.height.toNat =
      rowPixels other.rotation other.width.toNat other.height.toNat)
    (places : ∀ x < display.width.toNat, ∀ y < display.height.toNat,
      (place x y).1 < other.width.toNat ∧ (place x y).2 < other.height.toNat ∧
        unrotate display.rotation display.width.toNat display.height.toNat x y =
          unrotate other.rotation other.width.toNat other.height.toNat
            (place x y).1 (place x y).2) :
    (packed display memory start bits color).Moved
      (packed other memory start bits color) place := by
  intro x inRow y inColumn
  obtain ⟨inOtherRow, inOtherColumn, same⟩ := places x inRow y inColumn
  refine ⟨_, get?_packed memory start bits color inRow inColumn, ?_⟩
  rw [get?_packed memory start bits color inOtherRow inOtherColumn]
  have stored : storedPlace other
      ((packed other memory start bits color).index (place x y).1 (place x y).2) =
        storedPlace display ((packed display memory start bits color).index x y) := by
    rw [storedPlace_index rfl inOtherRow, storedPlace_index rfl inRow, same]
  rw [pixelValue, pixelValue, pixelAddress, pixelAddress, pixelOffset, pixelOffset, stored, rows]

/-- What a turned screen shows is what the same screen shows upright, flipped. -/
theorem packed_eq_flip {rotation : UInt16}
    (rows : rowPixels display.rotation display.width.toNat display.height.toNat =
      rowPixels rotation display.width.toNat display.height.toNat)
    (places : ∀ x < display.width.toNat, ∀ y < display.height.toNat,
      unrotate display.rotation display.width.toNat display.height.toNat x y =
        unrotate rotation display.width.toNat display.height.toNat
          (Frame.across display.width display.height x y).1
          (Frame.across display.width display.height x y).2) :
    packed display memory start bits color =
      (packed { display with rotation } memory start bits color).flip := by
  refine (fills_packed ..).eq_flip_of_moved (fills_packed ..) ?_
  refine moved_packed memory start bits color rows fun x inRow y inColumn => ?_
  exact ⟨Nat.sub_one_sub_lt_of_lt inRow, Nat.sub_one_sub_lt_of_lt inColumn,
    places x inRow y inColumn⟩

end Packed

/-! ## Pictures on screens -/

theorem flip_blank (width height : UInt32) :
    (Frame.blank width height).flip = Frame.blank width height :=
  congrArg (Frame.mk width height) Array.reverse_replicate

/-- The flip turns what is shown without it by half a circle, in every format. -/
theorem render_flipped (config : Config) (memory : Memory) (devices : Devices) :
    render config memory { devices with flipScreen := true } =
      (render config memory { devices with flipScreen := false }).flip := by
  cases video : config.memory.video with
  | none =>
      simp only [render, video]
      exact (flip_blank _ _).symm
  | some region =>
      simp only [render, video, ↓reduceIte, Bool.false_eq_true]

theorem onScreen_flipped (config : Config) (memory : Memory) (devices : Devices)
    (width height : UInt32) (rotation : UInt16) :
    onScreen config memory devices width height rotation true =
      (onScreen config memory devices width height rotation false).flip :=
  render_flipped _ _ _

theorem exists_packs {region : VideoRegion} (packs : region.effectiveFormat ≠ .tilemap)
    (bank : UInt8) : ∃ bits color, Packs region bank bits color := by
  cases format : region.effectiveFormat with
  | mono => exact ⟨1, monoColor, .mono format⟩
  | color => exact ⟨2, bankColor bank, .color format⟩
  | tilemap => exact absurd format packs

/-- Screens differ in where they show the pixels, not in which pixels there are. -/
theorem onScreen_packed {config : Config} (packs : PacksPixels config) (memory : Memory)
    (devices : Devices) :
    ∃ start bits color, ∀ width height rotation,
      onScreen config memory devices width height rotation false =
        packed { config.display with width, height, rotation } memory start bits color := by
  obtain ⟨region, video, packs⟩ := packs
  obtain ⟨bits, color, packs⟩ := exists_packs packs devices.colorBank
  refine ⟨region.start, bits, color, fun width height rotation => ?_⟩
  simp only [onScreen, render, video, Bool.false_eq_true, ↓reduceIte, packs.upright_eq]

/--
What is true of packed pictures on screens of one size, standing or lying. A screen that
stands on a side has the stored rows of the one that lies.
-/
structure Turned (config : Config) (memory : Memory) (devices : Devices)
    (width height : UInt32) : Prop where
  fills : ∀ rotation flipped,
    (onScreen config memory devices width height rotation flipped).Fills width height
  quarter : (onScreen config memory devices width height 90 false).Moved
    (onScreen config memory devices height width 0 false) fun x y => (height.toNat - 1 - y, x)
  half : (onScreen config memory devices width height 180 false).Moved
    (onScreen config memory devices width height 0 false) (Frame.across width height)
  threeQuarters : (onScreen config memory devices width height 270 false).Moved
    (onScreen config memory devices height width 0 false) fun x y => (y, width.toNat - 1 - x)
  flipped : ∀ rotation ∈ [0, 90, 180, 270],
    onScreen config memory devices width height rotation true =
      onScreen config memory devices width height ((rotation + 180) % 360) false

theorem turned {config : Config} (packs : PacksPixels config) (memory : Memory)
    (devices : Devices) (width height : UInt32) : Turned config memory devices width height := by
  obtain ⟨start, bits, color, same⟩ := onScreen_packed packs memory devices
  constructor
  case fills => exact fun rotation flipped => fills_render _ _ _
  case quarter =>
    rw [same, same]
    exact moved_packed memory start bits color rfl fun x inRow y inColumn =>
      ⟨Nat.sub_one_sub_lt_of_lt inColumn, inRow, rfl⟩
  case half =>
    rw [same, same]
    exact moved_packed memory start bits color rfl fun x inRow y inColumn =>
      ⟨Nat.sub_one_sub_lt_of_lt inRow, Nat.sub_one_sub_lt_of_lt inColumn, rfl⟩
  case threeQuarters =>
    rw [same, same]
    exact moved_packed memory start bits color rfl fun x inRow y inColumn =>
      ⟨inColumn, Nat.sub_one_sub_lt_of_lt inRow, rfl⟩
  case flipped =>
    intro rotation member
    rw [onScreen_flipped, same, same]
    symm
    simp only [List.mem_cons, List.not_mem_nil, or_false] at member
    rcases member with rfl | rfl | rfl | rfl
    all_goals
      refine packed_eq_flip memory start bits color rfl fun x inRow y inColumn => ?_
    · rfl
    · exact Prod.ext (Nat.sub_sub_self (Nat.le_sub_one_of_lt inColumn)).symm rfl
    · exact Prod.ext (Nat.sub_sub_self (Nat.le_sub_one_of_lt inRow)).symm
        (Nat.sub_sub_self (Nat.le_sub_one_of_lt inColumn)).symm
    · exact Prod.ext rfl (Nat.sub_sub_self (Nat.le_sub_one_of_lt inRow)).symm

/--
Screens on their side and screens turned by half a circle show packed pictures
with each place moved. The flip shows all pictures with each place moved across,
and packed ones as a screen does that is turned by half a circle.
-/
theorem turned_and_flipped (config : Config) (memory : Memory) (devices : Devices) :
    (PacksPixels config → ∀ width height, Turned config memory devices width height) ∧
      (render config memory { devices with flipScreen := true }).Fills
        config.display.width config.display.height ∧
      (render config memory { devices with flipScreen := true }).Moved
        (render config memory { devices with flipScreen := false })
        (Frame.across config.display.width config.display.height) := by
  refine ⟨fun packs => turned packs memory devices, fills_render _ _ _, ?_⟩
  rw [render_flipped]
  exact (fills_render _ _ _).moved_flip

/-- A screen on its side, as most cabinets have it. -/
theorem turned_and_flipped_spaceInvaders :
    PacksPixels Preset.spaceInvaders ∧
      (onScreen Preset.spaceInvaders (Memory.zero.write 0x2400 0x01) {} 224 256 270 false).Moved
        (onScreen Preset.spaceInvaders (Memory.zero.write 0x2400 0x01) {} 256 224 0 false)
        fun x y => (y, 223 - x) := by
  have packs : PacksPixels Preset.spaceInvaders := ⟨_, rfl, by decide⟩
  obtain ⟨standing, -⟩ :=
    turned_and_flipped Preset.spaceInvaders (Memory.zero.write 0x2400 0x01) {}
  exact ⟨packs, (standing packs 224 256).threeQuarters⟩

end Cabinet.Picture
