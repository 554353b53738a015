import Cabinet.Proofs.Picture.Rotation

/-!
# Tiles and sprites, place by place

A picture of tiles and sprites is painted dot by dot, over and over in some places.
What a place shows in the end can be told from the place: a lit pixel if any sprite
has one there, otherwise the pixel of the one tile that it lies in. So neither the
order of the sprites nor the rotation of the screen is seen in the picture.
-/

namespace Cabinet

/-- The byte at a number, which counts modulo the number of addresses. -/
def Memory.byteAt (memory : Memory) (number : Nat) : UInt8 :=
  memory.read (UInt16.ofNat number)

theorem ofNat_toNat_add (base : UInt16) (offset : Nat) :
    UInt16.ofNat (base.toNat + offset) = base + UInt16.ofNat offset := by
  rw [UInt16.ofNat_add, UInt16.ofNat_toNat]

namespace Picture

/-- The addresses of a shape among shapes of one size. -/
theorem ofNat_shape_add (shapes : UInt16) (size : Nat) (number : UInt8) (offset : Nat) :
    UInt16.ofNat (shapes.toNat + size * number.toNat + offset) =
      shapes + number.toUInt16 * UInt16.ofNat size + UInt16.ofNat offset := by
  rw [UInt16.ofNat_add, ofNat_toNat_add, Nat.mul_comm, UInt16.ofNat_mul,
    UInt16.ofNat_uInt8ToNat]

/-! ## Painting -/

section Painting

variable {frame : Frame} {width height : UInt32} {x y : Nat} {dots : List Dot}

theorem get?_paint_of_missed (fills : frame.Fills width height) (inRow : x < width.toNat)
    (inColumn : y < height.toNat) (missed : ∀ dot ∈ dots, ¬ (dot.x = x ∧ dot.y = y)) :
    (paint frame dots).get? x y = frame.get? x y := by
  induction dots generalizing frame with
  | nil => rfl
  | cons dot dots ih =>
      obtain ⟨first, later⟩ := List.forall_mem_cons.mp missed
      have rest := ih (fills.set dot.x dot.y dot.value) later
      rwa [fills.get?_set _ _ _ inRow inColumn, if_neg first] at rest

/-- A place shows the value that all dots for it have. -/
theorem get?_paint_of_hit {value : UInt32} (fills : frame.Fills width height)
    (inRow : x < width.toNat) (inColumn : y < height.toNat)
    (agree : ∀ dot ∈ dots, dot.x = x ∧ dot.y = y → dot.value = value)
    (hit : ∃ dot ∈ dots, dot.x = x ∧ dot.y = y) : (paint frame dots).get? x y = some value := by
  induction dots generalizing frame with
  | nil => exact absurd hit (by simp)
  | cons dot dots ih =>
      obtain ⟨first, later⟩ := List.forall_mem_cons.mp agree
      have set := fills.set dot.x dot.y dot.value
      -- If the place is not painted again, it is this dot that hits it.
      by_cases again : ∃ dot ∈ dots, dot.x = x ∧ dot.y = y
      · exact ih set later again
      · have here : dot.x = x ∧ dot.y = y := by
          obtain ⟨found, member, here⟩ := hit
          cases member with
          | head => exact here
          | tail _ member => exact absurd ⟨found, member, here⟩ again
        have missed : ∀ dot ∈ dots, ¬ (dot.x = x ∧ dot.y = y) :=
          fun dot member there => again ⟨dot, member, there⟩
        have rest := get?_paint_of_missed set inRow inColumn missed
        rw [fills.get?_set _ _ _ inRow inColumn, if_pos here] at rest
        exact rest.trans (congrArg some (first here))

end Painting

/-! ## Sprites -/

/-- An entry of the sprite table, as far as it has a meaning. -/
structure Sprite where
  row : UInt8
  column : UInt8
  number : UInt8
deriving DecidableEq

def spriteAt (memory : Memory) (table : UInt16) (index : Nat) : Sprite where
  row := memory.byteAt (table.toNat + 4 * index)
  column := memory.byteAt (table.toNat + 4 * index + 1)
  number := memory.byteAt (table.toNat + 4 * index + 2)

/-- A sprite that is shown has a set pixel at a place. -/
def Sprite.Covers (sprite : Sprite) (memory : Memory) (shapes : UInt16) (x y : Nat) : Prop :=
  (sprite.row ≠ 0 ∧ sprite.column ≠ 0) ∧
    (sprite.column.toNat ≤ x ∧ x < sprite.column.toNat + 16) ∧
    (sprite.row.toNat ≤ y ∧ y < sprite.row.toNat + 16) ∧
    (memory.byteAt (shapes.toNat + 32 * sprite.number.toNat + 2 * (y - sprite.row.toNat) +
      (x - sprite.column.toNat) / 8)).toNat.testBit (7 - (x - sprite.column.toNat) % 8) = true

instance (sprite : Sprite) (memory : Memory) (shapes : UInt16) (x y : Nat) :
    Decidable (sprite.Covers memory shapes x y) :=
  inferInstanceAs (Decidable (_ ∧ _))

theorem spriteAt_eq (memory : Memory) (table : UInt16) (index : Nat) :
    spriteAt memory table index =
      let entry := spriteEntry table index
      ⟨memory.read entry, memory.read (entry + 1), memory.read (entry + 2)⟩ := by
  simp only [spriteAt, Memory.byteAt, spriteEntry, UInt16.ofNat_add, UInt16.ofNat_toNat,
    Nat.mul_comm 4 index]
  rfl

theorem spriteBit_eq (memory : Memory) (shapes : UInt16) (number : UInt8) (column row : Nat) :
    spriteBit memory (shapes + number.toUInt16 * 32) column row =
      (memory.byteAt (shapes.toNat + 32 * number.toNat + 2 * row + column / 8)).toNat.testBit
        (7 - column % 8) := by
  rw [Nat.add_assoc _ (2 * row), Memory.byteAt, ofNat_shape_add]
  rfl

/-- The dots of a sprite are the places that it covers. -/
theorem mem_spriteDots {memory : Memory} {table shapes : UInt16} {color : Nat → UInt32}
    {index : Nat} {dot : Dot} :
    dot ∈ spriteDots memory table shapes color index ↔
      (spriteAt memory table index).Covers memory shapes dot.x dot.y ∧
        dot.value = color spriteShade := by
  rw [spriteDots_eq, spriteAt_eq]
  dsimp only [Sprite.Covers, spriteShape]
  split
  · rename_i hidden
    constructor
    · exact fun none => absurd none List.not_mem_nil
    · rintro ⟨⟨shown, -⟩, -⟩
      exact absurd hidden (not_or.mpr shown.symm)
  · rename_i shown
    simp only [List.mem_flatMap, List.mem_filterMap, List.mem_range, spriteBit_eq]
    constructor
    · rintro ⟨v, inRows, u, inColumns, here⟩
      split at here
      · rename_i set
        cases here
        refine ⟨⟨(not_or.mp shown).symm, ?_, ?_, ?_⟩, rfl⟩
        · exact ⟨Nat.le_add_right _ _, Nat.add_lt_add_left inColumns _⟩
        · exact ⟨Nat.le_add_right _ _, Nat.add_lt_add_left inRows _⟩
        · rwa [Nat.add_sub_cancel_left, Nat.add_sub_cancel_left]
      · cases here
    · rintro ⟨⟨-, ⟨left, right⟩, ⟨above, below⟩, set⟩, value⟩
      refine ⟨dot.y - _, Nat.sub_lt_left_of_lt_add above below, dot.x - _,
        Nat.sub_lt_left_of_lt_add left right, ?_⟩
      rw [if_pos set, Nat.add_sub_cancel' left, Nat.add_sub_cancel' above, ← value]

/-! ## Tiles -/

/-- The value that the tile at a place has there. -/
def tilePixel (memory : Memory) (shapes table : UInt16) (x y : Nat) : Nat :=
  let number := memory.byteAt (table.toNat + 32 * (y / 8) + x / 8)
  let line := shapes.toNat + 16 * number.toNat + 2 * (y % 8)
  ((memory.byteAt line).toNat.testBit (7 - x % 8)).toNat +
    2 * ((memory.byteAt (line + 1)).toNat.testBit (7 - x % 8)).toNat

theorem tileValue_tileShape (memory : Memory) (shapes table : UInt16) (x y : Nat) :
    tileValue memory (tileShape memory shapes table (y / 8 * tileColumns + x / 8)) (x % 8) (y % 8) =
      tilePixel memory shapes table x y := by
  have entry : UInt16.ofNat (table.toNat + 32 * (y / 8) + x / 8) =
      table + UInt16.ofNat (y / 8 * tileColumns + x / 8) := by
    rw [Nat.add_assoc, ofNat_toNat_add, Nat.mul_comm]
    rfl
  simp only [tilePixel, Memory.byteAt, entry, Nat.add_assoc _ (2 * (y % 8)), ofNat_shape_add]
  rfl

/-- The dots of the tiles are the places where the tile that is there has a value. -/
theorem mem_tilesDots {memory : Memory} {shapes table : UInt16} {color : Nat → UInt32}
    {height : Nat} {dot : Dot} :
    dot ∈ tilesDots memory shapes table color height ↔
      (dot.x < 256 ∧ dot.y < 8 * (height / 8)) ∧ tilePixel memory shapes table dot.x dot.y ≠ 0 ∧
        dot.value = color (tilePixel memory shapes table dot.x dot.y) := by
  have columns : tileColumns = 32 := rfl
  simp only [tilesDots, tileDots, tileSize, List.mem_flatMap, List.mem_filterMap, List.mem_range]
  constructor
  · -- The tile and the pixel in it are found again from the place.
    rintro ⟨row, inRows, column, inColumns, v, inLines, u, inLine, here⟩
    split at here
    · cases here
    · rename_i seen
      cases here
      have onColumn : (column * 8 + u) / 8 = column ∧ (column * 8 + u) % 8 = u := by omega
      have onRow : (row * 8 + v) / 8 = row ∧ (row * 8 + v) % 8 = v := by omega
      have value := tileValue_tileShape memory shapes table (column * 8 + u) (row * 8 + v)
      rw [onColumn.1, onColumn.2, onRow.1, onRow.2] at value
      have inTable : column * 8 + u < 256 ∧ row * 8 + v < 8 * (height / 8) := by omega
      exact ⟨inTable, value ▸ seen, congrArg color value⟩
  · rintro ⟨⟨inRow, inColumn⟩, seen, value⟩
    refine ⟨dot.y / 8, by omega, dot.x / 8, by omega, dot.y % 8, by omega, dot.x % 8, by omega, ?_⟩
    rw [tileValue_tileShape, if_neg seen, ← value, Nat.div_add_mod', Nat.div_add_mod']

/-! ## Places -/

section Places

variable (display : Display) (region : VideoRegion) (memory : Memory)

/-- A sprite covers a place, if there are both tables for sprites. -/
def SpriteSeen (x y : Nat) : Prop :=
  ∃ table ∈ region.sprites, ∃ shapes ∈ region.patterns,
    ∃ index < 64, (spriteAt memory table index).Covers memory shapes x y

instance (x y : Nat) : Decidable (SpriteSeen region memory x y) :=
  inferInstanceAs (Decidable (∃ _ ∈ _, _))

/-- What the tiles show at a place. -/
def tileShade (x y : Nat) : UInt32 :=
  match region.tilemap with
  | none => 0
  | some table =>
      if x < 256 ∧ y < 8 * (display.height.toNat / 8) then
        let value := tilePixel memory region.start table x y
        if display.color then UInt32.ofNat value else if value = 0 then 0 else 255
      else 0

/-- What a picture of tiles and sprites shows at a place. -/
def shadeAt (x y : Nat) : UInt32 :=
  if SpriteSeen region memory x y then if display.color then 3 else 255
  else tileShade display region memory x y

/-- The dots of the tiles, if there is a table for them. -/
def backgroundDots : List Dot :=
  match region.tilemap with
  | some table =>
      tilesDots memory region.start table (tileColor display.color) display.height.toNat
  | none => []

/-- The dots of the entries of the sprite table in some order. -/
def foregroundDots (order : List Nat) : List Dot :=
  match region.sprites, region.patterns with
  | some table, some shapes =>
      order.flatMap (spriteDots memory table shapes (tileColor display.color))
  | _, _ => []

/-- The picture with the sprites painted in some order. -/
def tiledInOrder (order : List Nat) : Frame :=
  paint (.blank display.width display.height)
    (backgroundDots display region memory ++ foregroundDots display region memory order)

theorem tiled_eq_inOrder :
    tiled display region memory = tiledInOrder display region memory (List.range 64) := rfl

variable {display region memory}

theorem mem_foregroundDots {order : List Nat} (complete : ∀ index, index ∈ order ↔ index < 64)
    {dot : Dot} :
    dot ∈ foregroundDots display region memory order ↔
      SpriteSeen region memory dot.x dot.y ∧ dot.value = if display.color then 3 else 255 := by
  unfold foregroundDots SpriteSeen
  split
  · rename_i table shapes sprites patterns
    simp only [List.mem_flatMap, mem_spriteDots, complete, sprites, patterns, Option.mem_def,
      Option.some.injEq, exists_eq_left']
    constructor
    · rintro ⟨index, inTable, covers, value⟩
      exact ⟨⟨index, inTable, covers⟩, value⟩
    · rintro ⟨⟨index, inTable, covers⟩, value⟩
      exact ⟨index, inTable, covers, value⟩
  · rename_i missing
    constructor
    · exact fun none => absurd none List.not_mem_nil
    · rintro ⟨⟨table, sprites, shapes, patterns, -⟩, -⟩
      exact absurd patterns (missing table shapes sprites)

theorem get?_background {x y : Nat} (inRow : x < display.width.toNat)
    (inColumn : y < display.height.toNat) :
    (paint (.blank display.width display.height)
      (backgroundDots display region memory)).get? x y =
        some (tileShade display region memory x y) := by
  unfold backgroundDots tileShade
  cases region.tilemap with
  | none => exact Frame.Fills.get?_blank inRow inColumn
  | some table =>
      dsimp only
      by_cases seen : (x < 256 ∧ y < 8 * (display.height.toNat / 8)) ∧
          tilePixel memory region.start table x y ≠ 0
      · obtain ⟨inTable, value⟩ := seen
        rw [if_pos inTable, if_neg value]
        apply get?_paint_of_hit (.blank _ _) inRow inColumn
        · rintro dot member ⟨rfl, rfl⟩
          exact (mem_tilesDots.mp member).2.2
        · let dot : Dot := ⟨x, y, tileColor display.color (tilePixel memory region.start table x y)⟩
          exact ⟨dot, mem_tilesDots.mpr ⟨inTable, value, rfl⟩, rfl, rfl⟩
      · rw [get?_paint_of_missed (.blank _ _) inRow inColumn,
          Frame.Fills.get?_blank inRow inColumn]
        · by_cases inTable : x < 256 ∧ y < 8 * (display.height.toNat / 8)
          · -- A value of zero is transparent, and shown as the zero of the blank picture.
            have value := not_not.mp (not_and.mp seen inTable)
            rw [if_pos inTable, value]
            split
            · rfl
            · rfl
          · rw [if_neg inTable]
        · rintro dot member ⟨rfl, rfl⟩
          obtain ⟨inTable, value, -⟩ := mem_tilesDots.mp member
          exact seen ⟨inTable, value⟩

/-- Every place shows its shade, in whatever order the sprites are painted. -/
theorem get?_tiledInOrder {order : List Nat} (complete : ∀ index, index ∈ order ↔ index < 64)
    {x y : Nat} (inRow : x < display.width.toNat) (inColumn : y < display.height.toNat) :
    (tiledInOrder display region memory order).get? x y =
      some (shadeAt display region memory x y) := by
  have behind : (paint (.blank display.width display.height)
      (backgroundDots display region memory)).Fills display.width display.height :=
    fills_paint (.blank _ _) _
  have layers : tiledInOrder display region memory order =
      paint (paint (.blank display.width display.height) (backgroundDots display region memory))
        (foregroundDots display region memory order) :=
    List.foldl_append
  rw [layers, shadeAt]
  split
  · rename_i seen
    apply get?_paint_of_hit behind inRow inColumn
    · intro dot member _
      exact (mem_foregroundDots complete |>.mp member).2
    · exact ⟨⟨x, y, _⟩, (mem_foregroundDots complete).mpr ⟨seen, rfl⟩, rfl, rfl⟩
  · rename_i unseen
    rw [get?_paint_of_missed behind inRow inColumn, get?_background inRow inColumn]
    rintro dot member ⟨rfl, rfl⟩
    exact unseen ((mem_foregroundDots complete).mp member).1

end Places

/-! ## Pictures -/

theorem fills_tiledInOrder (display : Display) (region : VideoRegion) (memory : Memory)
    (order : List Nat) :
    (tiledInOrder display region memory order).Fills display.width display.height :=
  fills_paint (.blank _ _) _

/--
What is true of the picture of a region with tiles and sprites. The entries of the sprite
table may be painted in any order.
-/
structure ShowsShades (config : Config) (region : VideoRegion) (memory : Memory)
    (devices : Devices) : Prop where
  fills : (render config memory devices).Fills config.display.width config.display.height
  shade : ∀ x < config.display.width.toNat, ∀ y < config.display.height.toNat,
    (render config memory { devices with flipScreen := false }).get? x y =
      some (shadeAt config.display region memory x y)
  order : ∀ order : List Nat, order.Perm (List.range 64) →
    render config memory { devices with flipScreen := false } =
      tiledInOrder config.display region memory order
  rotation : ∀ rotation,
    render { config with display := { config.display with rotation } } memory devices =
      render config memory devices

/-- A picture of tiles and sprites shows at every place the shade of the place. -/
theorem shows_shades {config : Config} {region : VideoRegion}
    (video : config.memory.video = some region) (format : region.effectiveFormat = .tilemap)
    (memory : Memory) (devices : Devices) : ShowsShades config region memory devices := by
  have upright_eq (display : Display) (bank : UInt8) :
      upright display region memory bank = tiled display region memory := by
    simp only [upright, format]
  have painted : render config memory { devices with flipScreen := false } =
      tiledInOrder config.display region memory (List.range 64) := by
    simp only [render, video, upright_eq, Bool.false_eq_true, ↓reduceIte, tiled_eq_inOrder]
  constructor
  case fills => exact fills_render config memory devices
  case shade =>
    intro x inRow y inColumn
    rw [painted, get?_tiledInOrder (fun _ => List.mem_range) inRow inColumn]
  case order =>
    intro order same
    have complete (index : Nat) : index ∈ order ↔ index < 64 := same.mem_iff.trans List.mem_range
    rw [painted]
    refine (fills_tiledInOrder ..).ext_get? (fills_tiledInOrder ..) fun x inRow y inColumn => ?_
    rw [get?_tiledInOrder (fun _ => List.mem_range) inRow inColumn,
      get?_tiledInOrder complete inRow inColumn]
  case rotation =>
    intro rotation
    simp only [render, video, upright_eq]
    rfl

/-- A sprite at column 20 of row 30 whose shape has its first pixel set. -/
theorem shows_shades_galaxian :
    let memory := (Memory.zero.load 0x4600 [30, 20, 1]).write 0x5020 0x80
    ∃ region, Preset.galaxian.memory.video = some region ∧ region.effectiveFormat = .tilemap ∧
      (render Preset.galaxian memory {}).get? 20 30 = some 3 := by
  intro memory
  refine ⟨_, rfl, by decide, ?_⟩
  have shown : ShowsShades Preset.galaxian _ _ _ := shows_shades rfl (by decide) memory {}
  refine (shown.shade 20 (by decide) 30 (by decide)).trans ?_
  have entry : spriteAt memory 0x4600 0 = ⟨30, 20, 1⟩ := by
    simp [memory, spriteAt, Memory.byteAt, Memory.load, Memory.read_write]
  have shape : memory.byteAt 0x5020 = 0x80 := Memory.read_write_same _ _ _
  have set : (memory.byteAt 0x5020).toNat.testBit 7 = true := by
    rw [shape]
    decide
  rw [shadeAt, if_pos]
  · rfl
  · refine ⟨0x4600, rfl, 0x5000, rfl, 0, by decide, ?_⟩
    rw [entry]
    exact ⟨by decide, by decide, by decide, set⟩

end Picture

end Cabinet
