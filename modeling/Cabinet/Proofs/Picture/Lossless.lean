import Cabinet.Proofs.Picture.Packing
import Mathlib.Data.Finset.Card

/-!
# Packed pictures are lossless

Different memories show the same packed picture only if they differ in padding or
outside the bytes of the picture. Every picture of the right size and colours is
shown by some memory. A byte is seen in no more pixels than it has room for.
-/

namespace Cabinet.Picture

/-! ## Colours -/

/-- A value that packed pixels may show. -/
def Shade (region : VideoRegion) (bank : UInt8) (shade : UInt32) : Prop :=
  match region.effectiveFormat with
  | .mono => shade = 0 ∨ shade = 255
  | .color => 4 * bank.toNat ≤ shade.toNat ∧ shade.toNat < 4 * bank.toNat + 4
  | .tilemap => False

theorem toNat_bankColor (bank : UInt8) {value : Nat} (small : value < 4) :
    (bankColor bank value).toNat = 4 * bank.toNat + value := by
  have bound := bank.toNat_lt
  have shifted : (bank.toUInt32 <<< 2).toNat = 2 ^ 2 * bank.toNat := by
    rw [UInt32.toNat_shiftLeft, UInt8.toNat_toUInt32, Nat.shiftLeft_eq, Nat.mul_comm]
    exact Nat.mod_eq_of_lt (show 4 * bank.toNat < 4294967296 by omega)
  rw [bankColor, UInt32.toNat_or, shifted, UInt32.toNat_ofNat', Nat.mod_eq_of_lt (by omega),
    ← Nat.two_pow_add_eq_or_of_lt small]

namespace Packs

variable {region : VideoRegion} {bank : UInt8} {bits : Nat} {color : Nat → UInt32}

theorem depth (packs : Packs region bank bits color) : bits = 1 ∨ bits = 2 := by
  cases packs with
  | mono => exact Or.inl rfl
  | color => exact Or.inr rfl

/-- Different stored values have different colours. -/
theorem color_inj (packs : Packs region bank bits color) {first second : Nat}
    (small : first < 2 ^ bits) (otherSmall : second < 2 ^ bits) :
    color first = color second ↔ first = second := by
  refine ⟨fun same => ?_, congrArg color⟩
  cases packs with
  | mono =>
      have black : monoColor 0 ≠ monoColor 1 := by decide
      obtain rfl | rfl : first = 0 ∨ first = 1 := by omega
      · obtain rfl | rfl : second = 0 ∨ second = 1 := by omega
        · rfl
        · exact absurd same black
      · obtain rfl | rfl : second = 0 ∨ second = 1 := by omega
        · exact absurd same.symm black
        · rfl
  | color =>
      have := congrArg UInt32.toNat same
      rw [toNat_bankColor bank small, toNat_bankColor bank otherSmall] at this
      omega

theorem shade_iff (packs : Packs region bank bits color) {shade : UInt32} :
    Shade region bank shade ↔ ∃ value < 2 ^ bits, color value = shade := by
  cases packs with
  | mono format =>
      rw [Shade, format]
      constructor
      · rintro (rfl | rfl)
        · exact ⟨0, by decide, rfl⟩
        · exact ⟨1, by decide, rfl⟩
      · rintro ⟨value, -, rfl⟩
        unfold monoColor
        split_ifs
        · exact Or.inl rfl
        · exact Or.inr rfl
  | color format =>
      rw [Shade, format]
      constructor
      · rintro ⟨above, below⟩
        refine ⟨shade.toNat - 4 * bank.toNat, by omega, ?_⟩
        rw [← UInt32.toNat_inj, toNat_bankColor bank (by omega)]
        omega
      · rintro ⟨value, small, rfl⟩
        dsimp only
        rw [toNat_bankColor bank small]
        omega

/-- A picture of these colours shows values that can be stored. -/
theorem exists_values (packs : Packs region bank bits color) {frame : Frame}
    {width height : UInt32} (fills : frame.Fills width height)
    (shades : ∀ shade ∈ frame.pixels, Shade region bank shade) :
    ∃ values : Nat → Nat, ∀ index < width.toNat * height.toNat,
      values index < 2 ^ bits ∧ frame.pixels[index]? = some (color (values index)) := by
  have each : ∀ index, ∃ value, index < width.toNat * height.toNat →
      value < 2 ^ bits ∧ frame.pixels[index]? = some (color value) := by
    intro index
    by_cases inside : index < width.toNat * height.toNat
    · have bound : index < frame.pixels.size := by
        rwa [fills.size, fills.width, fills.height]
      obtain ⟨value, small, here⟩ := packs.shade_iff.mp (shades _ (Array.getElem_mem bound))
      exact ⟨value, fun _ => ⟨small, here ▸ Array.getElem?_eq_getElem bound⟩⟩
    · exact ⟨0, fun no => absurd no inside⟩
  choose values stored using each
  exact ⟨values, stored⟩

end Packs

/-! ## Shown pixels -/

/-- The number of pixels of a screen. -/
def pixelCount (display : Display) : Nat :=
  display.width.toNat * display.height.toNat

theorem source_lt {display : Display} (flipped : Bool) {index : Nat}
    (inside : index < pixelCount display) :
    source display flipped index < pixelCount display := by
  unfold source
  split
  · exact Nat.sub_one_sub_lt_of_lt inside
  · exact inside

theorem source_source {display : Display} (flipped : Bool) {index : Nat}
    (inside : index < pixelCount display) :
    source display flipped (source display flipped index) = index := by
  cases flipped with
  | false => rfl
  | true => exact Nat.sub_sub_self (Nat.le_sub_one_of_lt inside)

/-- The bits that a shown pixel is read from. -/
def ReadFrom (config : Config) (region : VideoRegion) (devices : Devices) (bits index : Nat) :
    Memory.Bit → Prop :=
  PixelBit config.display region.start bits (source config.display devices.flipScreen index)

section Shown

variable {config : Config} {region : VideoRegion} {devices : Devices} {bits : Nat}
  {color : Nat → UInt32}

/-- Devices that pictures of packed pixels do not tell apart. -/
structure SameScreen (devices others : Devices) : Prop where
  bank : others.colorBank = devices.colorBank
  flip : others.flipScreen = devices.flipScreen

theorem SameScreen.render_eq {others : Devices} (same : SameScreen devices others)
    (memory : Memory) : render config memory others = render config memory devices := by
  rw [render, render, same.bank, same.flip]

/-- A pixel shows the same of two memories if they agree on the bits that it is read from. -/
theorem getElem?_render_eq_iff (video : config.memory.video = some region)
    (packs : Packs region devices.colorBank bits color) {first second : Memory} {index : Nat}
    (inside : index < pixelCount config.display) :
    (render config first devices).pixels[index]? = (render config second devices).pixels[index]? ↔
      ∀ bit, ReadFrom config region devices bits index bit → first.bit bit = second.bit bit := by
  rw [getElem?_render video packs first inside, getElem?_render video packs second inside,
    Option.some_inj, packs.color_inj (pixelValue_lt ..) (pixelValue_lt ..),
    pixelValue_eq_pixelValue_iff packs.depth]
  rfl

theorem render_eq_iff (video : config.memory.video = some region)
    (packs : Packs region devices.colorBank bits color)
    (fits : packedSize config.display bits ≤ 65536) {first second : Memory} :
    render config first devices = render config second devices ↔
      ∀ bit, BitmapBit config.display region.start bits bit → first.bit bit = second.bit bit := by
  rw [← pixelValues_eq_iff packs.depth fits]
  constructor
  · intro same index inside
    have shown := source_lt devices.flipScreen inside
    have seen := congrArg
      (fun frame => frame.pixels[source config.display devices.flipScreen index]?) same
    simp only [getElem?_render video packs _ shown, Option.some_inj, source_source _ inside] at seen
    exact (packs.color_inj (pixelValue_lt ..) (pixelValue_lt ..)).mp seen
  · intro same
    refine (fills_render ..).ext_getElem? (fills_render ..) fun index inside => ?_
    rw [getElem?_render video packs first inside, getElem?_render video packs second inside,
      same _ (source_lt _ inside)]

/-- Memory stores every picture of the right size with the right colours, and no other. -/
theorem exists_render_iff (video : config.memory.video = some region)
    (packs : Packs region devices.colorBank bits color)
    (fits : packedSize config.display bits ≤ 65536) {frame : Frame} :
    (∃ memory, render config memory devices = frame) ↔
      frame.Fills config.display.width config.display.height ∧
        ∀ shade ∈ frame.pixels, Shade region devices.colorBank shade := by
  constructor
  · rintro ⟨memory, rfl⟩
    have fills := fills_render config memory devices
    refine ⟨fills, fun shade shown => ?_⟩
    obtain ⟨index, here⟩ := Array.mem_iff_getElem?.mp shown
    obtain ⟨bound, -⟩ := Array.getElem?_eq_some_iff.mp here
    rw [fills.size, fills.width, fills.height] at bound
    rw [getElem?_render video packs memory bound, Option.some_inj] at here
    exact packs.shade_iff.mpr ⟨_, pixelValue_lt .., here⟩
  · rintro ⟨fills, shades⟩
    obtain ⟨values, stored⟩ := packs.exists_values fills shades
    -- A flipped picture is stored from its end.
    let shown (index : Nat) : Nat := values (source config.display devices.flipScreen index)
    refine ⟨storing config.display region.start bits shown, ?_⟩
    refine (fills_render ..).ext_getElem? fills fun index inside => ?_
    obtain ⟨small, here⟩ := stored index inside
    have back : shown (source config.display devices.flipScreen index) = values index :=
      congrArg values (source_source _ inside)
    rw [getElem?_render video packs _ inside, here,
      pixelValue_storing packs.depth fits (back ▸ small) (source_lt _ inside), back]

/-- No two pixels are read from one bit. -/
theorem ReadFrom.unique (depth : bits = 1 ∨ bits = 2)
    (fits : packedSize config.display bits ≤ 65536) {index other : Nat}
    (inside : index < pixelCount config.display)
    (otherInside : other < pixelCount config.display)
    {bit : Memory.Bit} (reads : ReadFrom config region devices bits index bit)
    (otherReads : ReadFrom config region devices bits other bit) : index = other := by
  have same : source config.display devices.flipScreen index =
      source config.display devices.flipScreen other :=
    (pixelOf_eq depth fits (source_lt _ inside) reads).symm.trans
      (pixelOf_eq depth fits (source_lt _ otherInside) otherReads)
  rw [← source_source devices.flipScreen inside, same, source_source _ otherInside]

/-- A pixel that a written byte changes is in this byte. -/
theorem pixelAddress_of_changed (video : config.memory.video = some region)
    (packs : Packs region devices.colorBank bits color) {memory : Memory} {address : UInt16}
    {value : UInt8} {index : Nat}
    (inside : index < pixelCount config.display)
    (changed : (render config (memory.write address value) devices).pixels[index]? ≠
      (render config memory devices).pixels[index]?) :
    address = pixelAddress config.display region.start bits
      (source config.display devices.flipScreen index) := by
  by_contra apart
  refine changed ((getElem?_render_eq_iff video packs inside).mpr fun bit reads => ?_)
  exact Memory.bit_write_of_ne memory value (reads.address ▸ apart)

/-- A written byte changes no more pixels than it has room for. -/
theorem card_changed_le (video : config.memory.video = some region)
    (packs : Packs region devices.colorBank bits color)
    (fits : packedSize config.display bits ≤ 65536) (memory : Memory) (address : UInt16)
    (value : UInt8) :
    ((Finset.range (pixelCount config.display)).filter fun index =>
      (render config (memory.write address value) devices).pixels[index]? ≠
        (render config memory devices).pixels[index]?).card ≤ 8 / bits := by
  have room := pixelsPerByte_pos packs.depth
  let inByte (index : Nat) : Nat :=
    (storedPlace config.display (source config.display devices.flipScreen index)).1 %
      pixelsPerByte bits
  rw [← Finset.card_range (8 / bits)]
  -- Two pixels at one position of the byte are read from one bit.
  refine Finset.card_le_card_of_injOn inByte ?_ ?_
  · intro index _
    exact Finset.mem_coe.mpr (Finset.mem_range.mpr (Nat.mod_lt _ room))
  · intro index member other otherMember same
    obtain ⟨inside, changed⟩ := Finset.mem_filter.mp (Finset.mem_coe.mp member)
    obtain ⟨otherInside, otherChanged⟩ := Finset.mem_filter.mp (Finset.mem_coe.mp otherMember)
    rw [Finset.mem_range] at inside otherInside
    obtain ⟨place, here, -⟩ :=
      exists_place packs.depth (Nat.mod_lt _ room) (bits_pos packs.depth)
    have reads : ReadFrom config region devices bits index ⟨address, place⟩ :=
      ⟨pixelAddress_of_changed video packs inside changed, here⟩
    have otherReads : ReadFrom config region devices bits other ⟨address, place⟩ :=
      ⟨pixelAddress_of_changed video packs otherInside otherChanged, here.trans same⟩
    exact reads.unique packs.depth fits inside otherInside otherReads

end Shown

/--
What is true of packed pictures that fit into memory. The bits of a pixel decide what it
shows and are decided by it, and all but the padding is seen. Nothing but the size and the
colours restricts what can be shown.
-/
structure Lossless (config : Config) (region : VideoRegion) (devices : Devices) (bits : Nat) :
    Prop where
  reads : ∀ (first second : Memory), ∀ index < pixelCount config.display,
    (render config first devices).pixels[index]? = (render config second devices).pixels[index]? ↔
      ∀ bit, ReadFrom config region devices bits index bit → first.bit bit = second.bit bit
  apart : ∀ index < pixelCount config.display, ∀ other < pixelCount config.display,
    index ≠ other → ∀ bit, ReadFrom config region devices bits index bit →
      ¬ ReadFrom config region devices bits other bit
  same_iff : ∀ (first second : Memory) (others : Devices), SameScreen devices others →
    (render config first devices = render config second others ↔
      ∀ bit, BitmapBit config.display region.start bits bit → first.bit bit = second.bit bit)
  changed_le : ∀ (memory : Memory) (address : UInt16) (value : UInt8),
    ((Finset.range (pixelCount config.display)).filter fun index =>
      (render config (memory.write address value) devices).pixels[index]? ≠
        (render config memory devices).pixels[index]?).card ≤ 8 / bits
  outside : ∀ (memory : Memory) (address : UInt16) (value : UInt8),
    ¬ Memory.InBlock region.start (packedSize config.display bits) address →
      render config (memory.write address value) devices = render config memory devices
  onto : ∀ frame : Frame, (∃ memory, render config memory devices = frame) ↔
    frame.Fills config.display.width config.display.height ∧
      ∀ shade ∈ frame.pixels, Shade region devices.colorBank shade

/-- Packed pictures that fit into memory are lossless, on screens of any size and rotation. -/
theorem packed_lossless {config : Config} {region : VideoRegion} {devices : Devices} {bits : Nat}
    {color : Nat → UInt32} (video : config.memory.video = some region)
    (packs : Packs region devices.colorBank bits color)
    (fits : packedSize config.display bits ≤ 65536) : Lossless config region devices bits where
  reads _ _ _ inside := getElem?_render_eq_iff video packs inside
  apart _ inside _ otherInside differ _ reads otherReads :=
    differ (reads.unique packs.depth fits inside otherInside otherReads)
  same_iff first second others same := by
    rw [same.render_eq]
    exact render_eq_iff video packs fits
  changed_le := card_changed_le video packs fits
  outside memory address value outside := by
    rw [render_eq_iff video packs fits]
    rintro bit ⟨offset, bound, here, -⟩
    apply Memory.bit_write_of_ne
    rintro rfl
    exact outside ⟨offset, bound, here⟩
  onto _ := exists_render_iff video packs fits

/-- Two bits for each pixel, with the colours of bank 5, flipped. -/
theorem packed_lossless_lupin : ∃ region, Preset.lupin.memory.video = some region ∧
    Packs region 5 2 (bankColor 5) ∧ packedSize Preset.lupin.display 2 ≤ 65536 ∧
    Lossless Preset.lupin region { colorBank := 5, flipScreen := true } 2 := by
  have packs : Packs { start := 0x8800, format := some .color } 5 2 (bankColor 5) := .color rfl
  have fits : packedSize Preset.lupin.display 2 ≤ 65536 := by decide
  exact ⟨_, rfl, packs, fits, packed_lossless rfl packs fits⟩

end Cabinet.Picture
