import Cabinet.Proofs.Memory
import Cabinet.Proofs.Picture.Shown
import Mathlib.Data.List.Basic

/-!
# What a picture is drawn from

A picture looks at some addresses of memory only. A packed picture looks at a
block whose place does not depend on what memory holds. A picture of tiles and
sprites follows numbers that it finds in tables to the shapes they stand for.
Memories that agree where one of them is looked at show the same picture.
-/

namespace Cabinet.Picture

/-! ## Addresses -/

/-- The column and the row of a pixel on the unrotated screen. -/
def storedPlace (display : Display) (index : Nat) : Nat × Nat :=
  let width := display.width.toNat
  unrotate display.rotation width display.height.toNat (index % width) (index / width)

/-- How far behind the start of a packed picture a pixel is stored. -/
def pixelOffset (display : Display) (bits index : Nat) : Nat :=
  let (column, row) := storedPlace display index
  row * stride bits (rowPixels display.rotation display.width.toNat display.height.toNat) +
    column / pixelsPerByte bits

/-- The address of the byte that holds a pixel of a packed picture. -/
def pixelAddress (display : Display) (start : UInt16) (bits index : Nat) : UInt16 :=
  start + UInt16.ofNat (pixelOffset display bits index)

/-- An address that a picture of tiles looks at. -/
inductive TileReads (memory : Memory) (shapes table : UInt16) (height : Nat) : UInt16 → Prop
  | number {row column : Nat} (inRows : row < height / tileSize)
      (inColumns : column < tileColumns) :
      TileReads memory shapes table height (table + UInt16.ofNat (row * tileColumns + column))
  | shape {row column line : Nat} (inRows : row < height / tileSize)
      (inColumns : column < tileColumns) (inShape : line < 2 * tileSize) :
      TileReads memory shapes table height
        (tileShape memory shapes table (row * tileColumns + column) + UInt16.ofNat line)

/-- Where an entry of the sprite table starts. -/
def spriteEntry (table : UInt16) (index : Nat) : UInt16 :=
  table + UInt16.ofNat (index * 4)

/-- An entry of the sprite table that is shown. -/
def SpriteShown (memory : Memory) (entry : UInt16) : Prop :=
  memory.read (entry + 1) ≠ 0 ∧ memory.read entry ≠ 0

/-- Where the shape of a sprite starts. -/
def spriteShape (memory : Memory) (shapes entry : UInt16) : UInt16 :=
  shapes + (memory.read (entry + 2)).toUInt16 * 32

/-- An address that a picture of sprites looks at. -/
inductive SpriteReads (memory : Memory) (table shapes : UInt16) : UInt16 → Prop
  | row {index : Nat} (inTable : index < spriteCount) :
      SpriteReads memory table shapes (spriteEntry table index)
  | column {index : Nat} (inTable : index < spriteCount) :
      SpriteReads memory table shapes (spriteEntry table index + 1)
  | number {index : Nat} (inTable : index < spriteCount)
      (shown : SpriteShown memory (spriteEntry table index)) :
      SpriteReads memory table shapes (spriteEntry table index + 2)
  | shape {index line : Nat} (inTable : index < spriteCount)
      (shown : SpriteShown memory (spriteEntry table index)) (inShape : line < 2 * spriteSize) :
      SpriteReads memory table shapes
        (spriteShape memory shapes (spriteEntry table index) + UInt16.ofNat line)

/-- An address that the picture of a board with this memory looks at. -/
inductive Reads (config : Config) (memory : Memory) : UInt16 → Prop
  | mono {region : VideoRegion} {index : Nat} (video : config.memory.video = some region)
      (format : region.effectiveFormat = .mono)
      (inside : index < config.display.width.toNat * config.display.height.toNat) :
      Reads config memory (pixelAddress config.display region.start 1 index)
  | color {region : VideoRegion} {index : Nat} (video : config.memory.video = some region)
      (format : region.effectiveFormat = .color)
      (inside : index < config.display.width.toNat * config.display.height.toNat) :
      Reads config memory (pixelAddress config.display region.start 2 index)
  | tile {region : VideoRegion} {table address : UInt16}
      (video : config.memory.video = some region) (format : region.effectiveFormat = .tilemap)
      (tiles : region.tilemap = some table)
      (reads : TileReads memory region.start table config.display.height.toNat address) :
      Reads config memory address
  | sprite {region : VideoRegion} {table shapes address : UInt16}
      (video : config.memory.video = some region) (format : region.effectiveFormat = .tilemap)
      (sprites : region.sprites = some table) (patterns : region.patterns = some shapes)
      (reads : SpriteReads memory table shapes address) :
      Reads config memory address

/-! ## Packed pictures -/

/-- The stored value of a pixel. -/
def pixelValue (display : Display) (memory : Memory) (start : UInt16) (bits index : Nat) : Nat :=
  field bits (memory.read (pixelAddress display start bits index))
    ((storedPlace display index).1 % pixelsPerByte bits)

theorem pixels_packed (display : Display) (memory : Memory) (start : UInt16) (bits : Nat)
    (color : Nat → UInt32) :
    (packed display memory start bits color).pixels =
      Array.ofFn fun index : Fin (display.width.toNat * display.height.toNat) =>
        color (pixelValue display memory start bits index) := rfl

theorem getElem?_packed {display : Display} (memory : Memory) (start : UInt16) (bits : Nat)
    (color : Nat → UInt32) {index : Nat}
    (inside : index < display.width.toNat * display.height.toNat) :
    (packed display memory start bits color).pixels[index]? =
      some (color (pixelValue display memory start bits index)) := by
  rw [pixels_packed, Array.getElem?_ofFn, dif_pos inside]

/-- The number of stored rows. -/
def storedRows (rotation : UInt16) (width height : Nat) : Nat :=
  if rotation = 90 ∨ rotation = 270 then width else height

theorem unrotate_lt (rotation : UInt16) {width height x y : Nat} (inRow : x < width)
    (inColumn : y < height) :
    (unrotate rotation width height x y).1 < rowPixels rotation width height ∧
      (unrotate rotation width height x y).2 < storedRows rotation width height := by
  unfold unrotate rowPixels storedRows
  by_cases quarter : rotation = 90
  · simp only [quarter, true_or, ↓reduceIte]
    omega
  · by_cases half : rotation = 180
    · simp only [half, ↓reduceIte]
      exact ⟨by simp; omega, by simp; omega⟩
    · by_cases threeQuarters : rotation = 270
      · simp only [threeQuarters, ↓reduceIte]
        exact ⟨by simp; omega, by simp; omega⟩
      · simp only [quarter, half, threeQuarters, ↓reduceIte, or_self]
        exact ⟨inRow, inColumn⟩

theorem storedPlace_lt {display : Display} {index : Nat}
    (inside : index < display.width.toNat * display.height.toNat) :
    (storedPlace display index).1 <
        rowPixels display.rotation display.width.toNat display.height.toNat ∧
      (storedPlace display index).2 <
        storedRows display.rotation display.width.toNat display.height.toNat :=
  unrotate_lt display.rotation (Nat.mod_lt _ (Nat.pos_of_lt_mul_right inside))
    (Nat.div_lt_of_lt_mul inside)

/-- The number of bytes of a packed picture. -/
def packedSize (display : Display) (bits : Nat) : Nat :=
  let width := display.width.toNat
  let height := display.height.toNat
  storedRows display.rotation width height *
    stride bits (rowPixels display.rotation width height)

theorem div_lt_stride {bits column pixels : Nat} (some : 0 < pixelsPerByte bits)
    (inside : column < pixels) : column / pixelsPerByte bits < stride bits pixels := by
  unfold stride
  calc column / pixelsPerByte bits
      < (column + pixelsPerByte bits) / pixelsPerByte bits := by
        rw [Nat.add_div_right _ some]
        exact Nat.lt_succ_self _
    _ ≤ (pixels + (pixelsPerByte bits - 1)) / pixelsPerByte bits :=
        Nat.div_le_div_right (by omega)

theorem pixelOffset_lt {display : Display} {bits index : Nat} (some : 0 < pixelsPerByte bits)
    (inside : index < display.width.toNat * display.height.toNat) :
    pixelOffset display bits index < packedSize display bits := by
  obtain ⟨column, row⟩ := storedPlace_lt inside
  calc pixelOffset display bits index
      < (storedPlace display index).2 * stride bits (rowPixels display.rotation _ _) +
          stride bits (rowPixels display.rotation _ _) :=
        Nat.add_lt_add_left (div_lt_stride some column) _
    _ = ((storedPlace display index).2 + 1) * stride bits (rowPixels display.rotation _ _) :=
        (Nat.succ_mul _ _).symm
    _ ≤ packedSize display bits := Nat.mul_le_mul_right _ row

/-- A packed picture looks at the bytes behind its start only. -/
theorem inBlock_pixelAddress {display : Display} {bits index : Nat} (start : UInt16)
    (some : 0 < pixelsPerByte bits)
    (inside : index < display.width.toNat * display.height.toNat) :
    Memory.InBlock start (packedSize display bits) (pixelAddress display start bits index) :=
  ⟨pixelOffset display bits index, pixelOffset_lt some inside, rfl⟩

theorem packed_eq_of_agree {display : Display} {first second : Memory} {start : UInt16}
    {bits : Nat} (color : Nat → UInt32)
    (agree : ∀ index < display.width.toNat * display.height.toNat,
      first.read (pixelAddress display start bits index) =
        second.read (pixelAddress display start bits index)) :
    packed display first start bits color = packed display second start bits color := by
  have pixels : (packed display first start bits color).pixels =
      (packed display second start bits color).pixels := by
    rw [pixels_packed, pixels_packed]
    congr 1
    funext index
    rw [pixelValue, pixelValue, agree index index.isLt]
  exact congrArg (Frame.mk display.width display.height) pixels

/-! ## Tiles -/

variable {first second : Memory}

theorem tileValue_eq_of_agree {shape : UInt16} {column row : Nat} (inRows : row < tileSize)
    (agree : ∀ line < 2 * tileSize,
      first.read (shape + UInt16.ofNat line) = second.read (shape + UInt16.ofNat line)) :
    tileValue first shape column row = tileValue second shape column row := by
  rw [tileValue, tileValue, agree (2 * row) (by omega), agree (2 * row + 1) (by omega)]

theorem tileDots_eq_of_agree {shapes table : UInt16} {color : Nat → UInt32} {height : Nat}
    {column row : Nat} (inRows : row < height / tileSize) (inColumns : column < tileColumns)
    (agree : ∀ address, TileReads first shapes table height address →
      first.read address = second.read address) :
    tileDots first shapes table color (row * tileColumns + column) column row =
      tileDots second shapes table color (row * tileColumns + column) column row := by
  have shape : tileShape first shapes table (row * tileColumns + column) =
      tileShape second shapes table (row * tileColumns + column) := by
    rw [tileShape, tileShape, agree _ (.number inRows inColumns)]
  unfold tileDots
  rw [← shape]
  apply List.flatMap_congr
  intro v inRows'
  apply List.filterMap_congr
  intro u _
  rw [tileValue_eq_of_agree (List.mem_range.mp inRows')]
  intro line inShape
  exact agree _ (.shape inRows inColumns inShape)

theorem tilesDots_eq_of_agree {shapes table : UInt16} {color : Nat → UInt32} {height : Nat}
    (agree : ∀ address, TileReads first shapes table height address →
      first.read address = second.read address) :
    tilesDots first shapes table color height = tilesDots second shapes table color height := by
  apply List.flatMap_congr
  intro row inRows
  apply List.flatMap_congr
  intro column inColumns
  exact tileDots_eq_of_agree (List.mem_range.mp inRows) (List.mem_range.mp inColumns) agree

/-! ## Sprites -/

theorem spriteBit_eq_of_agree {shape : UInt16} {column row : Nat} (inRows : row < spriteSize)
    (inColumns : column < spriteSize)
    (agree : ∀ line < 2 * spriteSize,
      first.read (shape + UInt16.ofNat line) = second.read (shape + UInt16.ofNat line)) :
    spriteBit first shape column row = spriteBit second shape column row := by
  have inShape : 2 * row + column / 8 < 2 * spriteSize := by
    unfold spriteSize at *
    omega
  rw [spriteBit, spriteBit, agree _ inShape]

/-- The dots of an entry of the sprite table, by where the entry and its shape start. -/
theorem spriteDots_eq (memory : Memory) (table shapes : UInt16) (color : Nat → UInt32)
    (index : Nat) :
    spriteDots memory table shapes color index =
      let entry := spriteEntry table index
      let x := (memory.read (entry + 1)).toNat
      let y := (memory.read entry).toNat
      if memory.read (entry + 1) = 0 ∨ memory.read entry = 0 then []
      else (List.range spriteSize).flatMap fun v => (List.range spriteSize).filterMap fun u =>
        if spriteBit memory (spriteShape memory shapes entry) u v then
          some ⟨x + u, y + v, color spriteShade⟩
        else none := rfl

theorem spriteDots_eq_of_agree {table shapes : UInt16} {color : Nat → UInt32} {index : Nat}
    (inTable : index < spriteCount)
    (agree : ∀ address, SpriteReads first table shapes address →
      first.read address = second.read address) :
    spriteDots first table shapes color index = spriteDots second table shapes color index := by
  rw [spriteDots_eq, spriteDots_eq]
  dsimp only
  rw [← agree _ (.row inTable), ← agree _ (.column inTable)]
  split
  · rfl
  · rename_i notHidden
    have shown : SpriteShown first (spriteEntry table index) := not_or.mp notHidden
    have shape : spriteShape first shapes (spriteEntry table index) =
        spriteShape second shapes (spriteEntry table index) := by
      rw [spriteShape, spriteShape, agree _ (.number inTable shown)]
    rw [← shape]
    apply List.flatMap_congr
    intro v inRows
    apply List.filterMap_congr
    intro u inColumns
    rw [spriteBit_eq_of_agree (List.mem_range.mp inRows) (List.mem_range.mp inColumns)]
    intro line inShape
    exact agree _ (.shape inTable shown inShape)

theorem spritesDots_eq_of_agree {table shapes : UInt16} {color : Nat → UInt32}
    (agree : ∀ address, SpriteReads first table shapes address →
      first.read address = second.read address) :
    spritesDots first table shapes color = spritesDots second table shapes color := by
  apply List.flatMap_congr
  intro index inTable
  exact spriteDots_eq_of_agree (List.mem_range.mp inTable) agree

/-! ## The whole picture -/

theorem dots_eq_of_agree {config : Config} {region : VideoRegion}
    (video : config.memory.video = some region) (format : region.effectiveFormat = .tilemap)
    (agree : ∀ address, Reads config first address → first.read address = second.read address) :
    dots config.display region first = dots config.display region second := by
  unfold dots
  refine congrArg₂ List.append ?_ ?_
  · cases tiles : region.tilemap with
    | none => rfl
    | some table =>
        apply tilesDots_eq_of_agree
        intro address reads
        exact agree address (.tile video format tiles reads)
  · cases sprites : region.sprites with
    | none => rfl
    | some table =>
        cases patterns : region.patterns with
        | none => rfl
        | some shapes =>
            apply spritesDots_eq_of_agree
            intro address reads
            exact agree address (.sprite video format sprites patterns reads)

theorem upright_eq_of_agree {config : Config} {region : VideoRegion} (bank : UInt8)
    (video : config.memory.video = some region)
    (agree : ∀ address, Reads config first address → first.read address = second.read address) :
    upright config.display region first bank = upright config.display region second bank := by
  unfold upright
  cases format : region.effectiveFormat with
  | mono => exact packed_eq_of_agree _ fun index inside => agree _ (.mono video format inside)
  | color => exact packed_eq_of_agree _ fun index inside => agree _ (.color video format inside)
  | tilemap => exact congrArg (paint _) (dots_eq_of_agree video format agree)

/-- The addresses that a picture looks at decide it. -/
theorem render_eq_of_agree {config : Config} (devices : Devices)
    (agree : ∀ address, Reads config first address → first.read address = second.read address) :
    render config first devices = render config second devices := by
  unfold render
  cases video : config.memory.video with
  | none => rfl
  | some region =>
      dsimp only
      rw [upright_eq_of_agree devices.colorBank video agree]

/-- A packed monochrome picture looks at a block that memory has no say in. -/
theorem Reads.inBlock {config : Config} {memory : Memory} {region : VideoRegion}
    (video : config.memory.video = some region) (format : region.effectiveFormat = .mono)
    {address : UInt16} (reads : Reads config memory address) :
    Memory.InBlock region.start (packedSize config.display 1) address := by
  cases reads with
  | mono same _ inside =>
      cases video.symm.trans same
      exact inBlock_pixelAddress region.start (by decide) inside
  | color same other _ | tile same other _ _ | sprite same other _ _ _ =>
      cases video.symm.trans same
      cases format.symm.trans other

/-- The formats of packed pixels, with the number of bits of a pixel and its colours. -/
inductive Packs (region : VideoRegion) (bank : UInt8) : Nat → (Nat → UInt32) → Prop
  | mono (format : region.effectiveFormat = .mono) : Packs region bank 1 monoColor
  | color (format : region.effectiveFormat = .color) : Packs region bank 2 (bankColor bank)

theorem Packs.upright_eq {region : VideoRegion} {bank : UInt8} {bits : Nat}
    {color : Nat → UInt32} (packs : Packs region bank bits color) (display : Display)
    (memory : Memory) :
    upright display region memory bank = packed display memory region.start bits color := by
  cases packs with
  | mono format | color format => rw [upright, format]

/-- The pixel of the picture before it is flipped that is shown as a pixel. -/
def source (display : Display) (flipped : Bool) (index : Nat) : Nat :=
  if flipped then display.width.toNat * display.height.toNat - 1 - index else index

/-- The values of a picture of packed pixels. -/
theorem getElem?_render {config : Config} {region : VideoRegion} {devices : Devices}
    {bits : Nat} {color : Nat → UInt32} (video : config.memory.video = some region)
    (packs : Packs region devices.colorBank bits color) (memory : Memory) {index : Nat}
    (inside : index < config.display.width.toNat * config.display.height.toNat) :
    (render config memory devices).pixels[index]? =
      some (color (pixelValue config.display memory region.start bits
        (source config.display devices.flipScreen index))) := by
  have size : (packed config.display memory region.start bits color).pixels.size =
      config.display.width.toNat * config.display.height.toNat := Array.size_ofFn
  simp only [render, video, packs.upright_eq, source]
  split
  · rw [Frame.flip, Array.getElem?_reverse (size ▸ inside), size]
    exact getElem?_packed _ _ _ _ (Nat.sub_one_sub_lt_of_lt inside)
  · exact getElem?_packed _ _ _ _ inside

end Cabinet.Picture
