import Cabinet.Proofs.Outcome
import Cabinet.Proofs.Picture.Slots
import Cabinet.Proofs.Picture.Tiles

/-!
# Drawing in words

A screen whose places are counted by words, and its table of tiles with them, is drawn as
the picture that it shows, every dot in its place. On any other screen the drawing ends in
a multiplication that leaves the words, whatever memory holds.
-/

namespace Cabinet

open Outcome

namespace Frame

/-- A new frame is made if a word counts its places. -/
theorem new_eq (width height : UInt32) :
    Frame.new width height =
      if width.toNat * height.toNat < UInt32.size then .ok (.blank width height)
      else .error .multiplication := by
  rw [Frame.new, Checked.mul_eq]
  split
  · rename_i few
    have count : (width * height).toNat = width.toNat * height.toNat :=
      (UInt32.toNat_mul _ _).trans (Nat.mod_eq_of_lt few)
    rw [ok_bind, count]
    rfl
  · rfl

theorem inside_ofNat {frame : Frame} {x y : Nat} (column : x < UInt32.size)
    (row : y < UInt32.size) :
    frame.Inside (.ofNat x) (.ofNat y) ↔ frame.inside x y = true := by
  rw [Inside, UInt32.lt_iff_toNat_lt, UInt32.lt_iff_toNat_lt, UInt32.toNat_ofNat_of_lt' column,
    UInt32.toNat_ofNat_of_lt' row, inside, Bool.and_eq_true, decide_eq_true_eq, decide_eq_true_eq]

section Fills

variable {frame : Frame} {width height : UInt32} {x y : Nat}

theorem Fills.whole (fills : frame.Fills width height) : frame.Whole :=
  fills.size

theorem Fills.placeCount (fills : frame.Fills width height) :
    frame.placeCount = width.toNat * height.toNat := by
  rw [Frame.placeCount, fills.width, fills.height]

theorem Fills.safe (fills : frame.Fills width height)
    (few : width.toNat * height.toNat ≤ UInt32.size) : frame.Safe :=
  safe_iff.mpr ⟨fills.placeCount ▸ few, Nat.le_of_eq fills.whole.symm⟩

theorem Fills.store_eq_set (fills : frame.Fills width height)
    (few : width.toNat * height.toNat ≤ UInt32.size) (column : x < UInt32.size)
    (row : y < UInt32.size) (value : UInt32) :
    frame.store (.ofNat x) (.ofNat y) value = .ok (frame.set x y value) := by
  by_cases inside : frame.Inside (.ofNat x) (.ofNat y)
  · have bound := inside.index_lt
    rw [fills.placeCount] at bound
    have word := Nat.lt_of_lt_of_le bound few
    rw [store_inside value inside, slot_of_lt word, ok_bind, UInt32.toNat_ofNat_of_lt' column,
      UInt32.toNat_ofNat_of_lt' row, Frame.set, if_pos ((inside_ofNat column row).mp inside)]
    have there : frame.index x y < frame.pixels.size := by
      rw [UInt32.toNat_ofNat_of_lt' column, UInt32.toNat_ofNat_of_lt' row] at bound
      exact fills.whole.symm ▸ fills.placeCount.symm ▸ bound
    rw [dif_pos there, Array.setIfInBounds, dif_pos there]
  · rw [store_outside value inside, Frame.set, if_neg (mt (inside_ofNat column row).mpr inside)]

end Fills

end Frame

namespace Picture

/-- The column and the row of a dot are words. -/
def Dot.Fits (dot : Dot) : Prop :=
  dot.x < UInt32.size ∧ dot.y < UInt32.size

/-! ## Storing dots -/

section Storing

variable {frame next : Frame} {dots : List Dot}

/-- However many dots there are, the frame keeps its size. -/
theorem sameSize_of_storeDots (stored : storeDots frame dots = .ok next) : next.SameSize frame := by
  induction dots generalizing frame with
  | nil =>
      cases stored
      exact .refl _
  | cons dot dots ih =>
      rw [storeDots, List.foldlM_cons] at stored
      obtain ⟨first, one, rest⟩ := bind_eq_ok_iff.mp stored
      exact (ih rest).trans (Frame.sameSize_of_store one)

/-- Where no place is without a value all dots are stored. -/
theorem exists_storeDots (safe : frame.Safe) (dots : List Dot) :
    ∃ next, storeDots frame dots = .ok next := by
  induction dots generalizing frame with
  | nil => exact ⟨frame, rfl⟩
  | cons dot dots ih =>
      obtain ⟨first, stored⟩ := safe.exists_store (.ofNat dot.x) (.ofNat dot.y) dot.value
      obtain ⟨next, rest⟩ := ih ((Frame.sameSize_of_store stored).safe_iff.mpr safe)
      refine ⟨next, ?_⟩
      rw [storeDots, List.foldlM_cons, stored, ok_bind]
      exact rest

theorem storeDots_eq_paint {width height : UInt32} (fills : frame.Fills width height)
    (few : width.toNat * height.toNat ≤ UInt32.size) (fit : ∀ dot ∈ dots, dot.Fits) :
    storeDots frame dots = .ok (paint frame dots) := by
  induction dots generalizing frame with
  | nil => rfl
  | cons dot dots ih =>
      obtain ⟨⟨column, row⟩, later⟩ := List.forall_mem_cons.mp fit
      rw [storeDots, List.foldlM_cons, fills.store_eq_set few column row, ok_bind]
      exact ih (fills.set dot.x dot.y dot.value) later

/-- Dots that are stored in portions are stored one after another. -/
theorem foldlM_storeDots {α : Type} (portions : List α) (dots : α → List Dot) :
    portions.foldlM (fun frame portion => storeDots frame (dots portion)) frame =
      storeDots frame (portions.flatMap dots) := by
  induction portions generalizing frame with
  | nil => rfl
  | cons portion portions ih =>
      rw [List.foldlM_cons, List.flatMap_cons, storeDots, storeDots, List.foldlM_append]
      exact congrArg (storeDots frame (dots portion) >>= ·) (funext fun _ => ih)

theorem storeDots_append (frame : Frame) (first second : List Dot) :
    storeDots frame (first ++ second) =
      storeDots frame first >>= fun next => storeDots next second :=
  List.foldlM_append

end Storing

/-! ## Tiles -/

section Tiles

variable (memory : Memory) (shapes table : UInt16) (color : Nat → UInt32) {frame : Frame}

/-- Words count the places of a table of tiles with this many rows. -/
def RowsCounted (rows : Nat) : Prop :=
  rows * tileColumns ≤ UInt32.size

instance (rows : Nat) : Decidable (RowsCounted rows) :=
  inferInstanceAs (Decidable (_ ≤ _))

theorem rowsCounted_iff {rows : Nat} : RowsCounted rows ↔ rows ≤ 134217728 := by
  rw [RowsCounted, show tileColumns = 32 from rfl, show UInt32.size = 134217728 * 32 from rfl]
  exact Nat.mul_le_mul_right_iff (by decide)

theorem tilePlace_eq {rows column row : Nat} (counted : RowsCounted rows) (inRows : row < rows)
    (inColumns : column < tileColumns) :
    tilePlace column row = .ok (row * tileColumns + column) := by
  have place : row * tileColumns + column < UInt32.size :=
    calc row * tileColumns + column
        < row * tileColumns + tileColumns := Nat.add_lt_add_left inColumns _
      _ = (row + 1) * tileColumns := (Nat.succ_mul _ _).symm
      _ ≤ rows * tileColumns := Nat.mul_le_mul_right _ inRows
      _ ≤ UInt32.size := counted
  have first : row * tileColumns < UInt32.size := Nat.lt_of_le_of_lt (Nat.le_add_right _ _) place
  have rowWord : (UInt32.ofNat row).toNat = row :=
    UInt32.toNat_ofNat_of_lt' (Nat.lt_of_le_of_lt (Nat.le_mul_of_pos_right _ (by decide)) first)
  have columnWord : (UInt32.ofNat column).toNat = column :=
    UInt32.toNat_ofNat_of_lt' (Nat.lt_trans inColumns (by decide))
  have columnsWord : (UInt32.ofNat tileColumns).toNat = tileColumns := by decide
  have product : (UInt32.ofNat row * UInt32.ofNat tileColumns).toNat = row * tileColumns := by
    rw [UInt32.toNat_mul, rowWord, columnsWord]
    exact Nat.mod_eq_of_lt first
  rw [tilePlace, Checked.mul_eq, rowWord, columnsWord, if_pos first, ok_bind, Checked.add_eq,
    product, columnWord, if_pos place, ok_bind, UInt32.toNat_add, product, columnWord]
  exact congrArg Except.ok (Nat.mod_eq_of_lt place)

theorem range_eq_append {count first : Nat} (small : first < count) :
    ∃ after, List.range count = List.range first ++ first :: after := by
  obtain ⟨more, rfl⟩ := Nat.exists_eq_add_of_lt small
  rw [Nat.add_assoc, List.range_add, List.range_succ_eq_map]
  exact ⟨_, rfl⟩

/-- Draw a row of tiles. -/
def drawTileRow (frame : Frame) (row : Nat) : Except Panic Frame :=
  (List.range tileColumns).foldlM (fun frame column => do
    let place ← tilePlace column row
    storeDots frame (tileDots memory shapes table color place column row)) frame

theorem drawTileRow_eq {rows row : Nat} (counted : RowsCounted rows) (inRows : row < rows)
    (frame : Frame) :
    drawTileRow memory shapes table color frame row =
      storeDots frame ((List.range tileColumns).flatMap fun column =>
        tileDots memory shapes table color (row * tileColumns + column) column row) := by
  rw [← foldlM_storeDots]
  refine foldlM_congr (fun column inColumns frame => ?_) frame
  rw [tilePlace_eq counted inRows (List.mem_range.mp inColumns)]
  rfl

theorem drawTiles_eq {height : Nat} (counted : RowsCounted (height / tileSize)) (frame : Frame) :
    drawTiles memory shapes table color height frame =
      storeDots frame (tilesDots memory shapes table color height) := by
  rw [tilesDots, ← foldlM_storeDots]
  exact foldlM_congr (fun row inRows frame =>
    drawTileRow_eq memory shapes table color counted (List.mem_range.mp inRows) frame) frame

theorem drawTileRow_stops (frame : Frame) :
    drawTileRow memory shapes table color frame 134217728 = .error .multiplication := by
  have place : tilePlace 0 134217728 = .error .multiplication := by decide
  rw [drawTileRow, show List.range tileColumns = 0 :: (List.range 31).map Nat.succ from rfl,
    List.foldlM_cons, place]
  rfl

/-- The first row that words do not count cannot be drawn. -/
theorem drawTiles_stops {height : Nat} (safe : frame.Safe)
    (uncounted : ¬ RowsCounted (height / tileSize)) :
    drawTiles memory shapes table color height frame = .error .multiplication := by
  have counted : RowsCounted 134217728 := by decide
  rw [rowsCounted_iff, Nat.not_le] at uncounted
  obtain ⟨after, split⟩ := range_eq_append uncounted
  have goesOn (row : Nat) (inRows : row ∈ List.range 134217728) (start : Frame)
      (safe : start.Safe) :
      ∃ next, drawTileRow memory shapes table color start row = .ok next ∧ next.Safe := by
    obtain ⟨next, stored⟩ := exists_storeDots safe ((List.range tileColumns).flatMap fun column =>
      tileDots memory shapes table color (row * tileColumns + column) column row)
    have drawn :=
      drawTileRow_eq memory shapes table color counted (List.mem_range.mp inRows) start
    exact ⟨next, drawn.trans stored, (sameSize_of_storeDots stored).safe_iff.mpr safe⟩
  have stopped := foldlM_stops goesOn (drawTileRow_stops memory shapes table color) after safe
  rw [← split] at stopped
  exact stopped

end Tiles

/-! ## Dots of pictures -/

section Dots

variable {display : Display} {region : VideoRegion} {memory : Memory} {start : UInt16}
  {bits : Nat} {color : Nat → UInt32}

/-- The dots of a picture of packed pixels, row after row. -/
def packedDots (display : Display) (memory : Memory) (start : UInt16) (bits : Nat)
    (color : Nat → UInt32) : List Dot :=
  (List.range display.height.toNat).flatMap (rowDots display memory start bits color)

/-- The dots of the picture of a region. -/
def regionDots (display : Display) (region : VideoRegion) (memory : Memory) (bank : UInt8) :
    List Dot :=
  match region.effectiveFormat with
  | .mono => packedDots display memory region.start 1 monoColor
  | .color => packedDots display memory region.start 2 (bankColor bank)
  | .tilemap => dots display region memory

/-- The dots of a packed picture are its places with their values. -/
theorem mem_packedDots {dot : Dot} :
    dot ∈ packedDots display memory start bits color ↔
      dot.x < display.width.toNat ∧ dot.y < display.height.toNat ∧
        (packed display memory start bits color).get? dot.x dot.y = some dot.value := by
  have shown {x y : Nat} (inRow : x < display.width.toNat) (inColumn : y < display.height.toNat) :
      (packed display memory start bits color).get? x y =
        let place := unrotate display.rotation display.width.toNat display.height.toNat x y
        some (color (storedAt memory start bits
          (stride bits (rowPixels display.rotation display.width.toNat display.height.toNat))
          place.1 place.2)) := by
    rw [get?_packed memory start bits color inRow inColumn, pixelValue, pixelAddress, pixelOffset,
      storedPlace_index rfl inRow]
    rfl
  simp only [packedDots, rowDots, List.mem_flatMap, List.mem_map, List.mem_range]
  constructor
  · rintro ⟨y, inColumn, x, inRow, rfl⟩
    exact ⟨inRow, inColumn, shown inRow inColumn⟩
  · rintro ⟨inRow, inColumn, value⟩
    have same := (shown inRow inColumn).symm.trans value
    exact ⟨dot.y, inColumn, dot.x, inRow, congrArg (Dot.mk dot.x dot.y) (Option.some_inj.mp same)⟩

theorem paint_packedDots :
    paint (.blank display.width display.height) (packedDots display memory start bits color) =
      packed display memory start bits color := by
  have blank := Frame.Fills.blank display.width display.height
  refine (fills_paint blank _).ext_get? (fills_packed display memory start bits color)
    fun x inRow y inColumn => ?_
  obtain ⟨value, shown⟩ :=
    (fills_packed display memory start bits color).exists_get? inRow inColumn
  rw [shown]
  refine get?_paint_of_hit blank inRow inColumn ?_ ?_
  · rintro dot listed ⟨rfl, rfl⟩
    exact Option.some_inj.mp ((mem_packedDots.mp listed).2.2.symm.trans shown)
  · exact ⟨⟨x, y, value⟩, mem_packedDots.mpr ⟨inRow, inColumn, shown⟩, rfl, rfl⟩

theorem fits_of_mem_packedDots {dot : Dot}
    (listed : dot ∈ packedDots display memory start bits color) : dot.Fits := by
  obtain ⟨inRow, inColumn, -⟩ := mem_packedDots.mp listed
  exact ⟨Nat.lt_trans inRow display.width.toNat_lt_size,
    Nat.lt_trans inColumn display.height.toNat_lt_size⟩

theorem fits_of_mem_tilesDots {shapes table : UInt16} {dot : Dot}
    (listed : dot ∈ tilesDots memory shapes table color display.height.toNat) : dot.Fits := by
  obtain ⟨⟨inRow, inColumn⟩, -⟩ := mem_tilesDots.mp listed
  have whole : 8 * (display.height.toNat / 8) ≤ display.height.toNat := Nat.mul_div_le _ 8
  exact ⟨Nat.lt_trans inRow (by decide),
    Nat.lt_trans (Nat.lt_of_lt_of_le inColumn whole) display.height.toNat_lt_size⟩

theorem fits_of_mem_spriteDots {table shapes : UInt16} {index : Nat} {dot : Dot}
    (listed : dot ∈ spriteDots memory table shapes color index) : dot.Fits := by
  obtain ⟨⟨-, ⟨-, right⟩, ⟨-, below⟩, -⟩, -⟩ := mem_spriteDots.mp listed
  have small (byte : UInt8) : byte.toNat + 16 < UInt32.size :=
    Nat.lt_of_lt_of_le (Nat.add_lt_add_right byte.toNat_lt 16) (by decide)
  exact ⟨Nat.lt_trans right (small _), Nat.lt_trans below (small _)⟩

theorem fits_of_mem_dots {dot : Dot} (listed : dot ∈ dots display region memory) : dot.Fits := by
  rcases List.mem_append.mp listed with tiles | sprites
  · split at tiles
    · exact fits_of_mem_tilesDots tiles
    · cases tiles
  · split at sprites
    · obtain ⟨index, -, inSprite⟩ := List.mem_flatMap.mp sprites
      exact fits_of_mem_spriteDots inSprite
    · cases sprites

/-- The dots of a picture fit words, and they paint the picture. -/
theorem regionDots_spec (display : Display) (region : VideoRegion) (memory : Memory)
    (bank : UInt8) :
    (∀ dot ∈ regionDots display region memory bank, dot.Fits) ∧
      paint (.blank display.width display.height) (regionDots display region memory bank) =
        upright display region memory bank := by
  unfold regionDots upright
  cases region.effectiveFormat with
  | mono => exact ⟨fun _ => fits_of_mem_packedDots, paint_packedDots⟩
  | color => exact ⟨fun _ => fits_of_mem_packedDots, paint_packedDots⟩
  | tilemap => exact ⟨fun _ => fits_of_mem_dots, rfl⟩

end Dots

/-! ## Drawing -/

section Drawing

variable (config : Config) (memory : Memory) (devices : Devices)

/-- Words count the places of the screen and those of the table of tiles, if there is one. -/
structure Drawable : Prop where
  screen : config.display.width.toNat * config.display.height.toNat < UInt32.size
  tiles : ∀ region ∈ config.memory.video, region.effectiveFormat = .tilemap →
    region.tilemap.isSome → RowsCounted (config.display.height.toNat / tileSize)

instance : Decidable (Drawable config) :=
  decidable_of_iff (_ ∧ _) ⟨fun both => ⟨both.1, both.2⟩, fun drawable => ⟨drawable.1, drawable.2⟩⟩

variable {config}

theorem drawTiled_eq {display : Display} {region : VideoRegion}
    (counted : region.tilemap.isSome → RowsCounted (display.height.toNat / tileSize))
    (frame : Frame) :
    drawTiled display region memory frame = storeDots frame (dots display region memory) := by
  have layers : dots display region memory = backgroundDots display region memory ++
      foregroundDots display region memory (List.range 64) := rfl
  have sprites (frame : Frame) : drawSprites display region memory frame =
      storeDots frame (foregroundDots display region memory (List.range 64)) := by
    unfold drawSprites foregroundDots
    cases region.sprites with
    | none => rfl
    | some table =>
        cases region.patterns with
        | none => rfl
        | some shapes => rfl
  rw [layers, storeDots_append]
  cases tilemap : region.tilemap with
  | none =>
      simp only [drawTiled, backgroundDots, tilemap]
      exact sprites frame
  | some table =>
      have tiles := counted (by rw [tilemap]; rfl)
      simp only [drawTiled, backgroundDots, tilemap, drawTiles_eq _ _ _ _ tiles]
      exact congrArg (_ >>= ·) (funext sprites)

theorem drawTiled_stops {display : Display} {region : VideoRegion} {frame : Frame}
    (safe : frame.Safe) (tiles : region.tilemap.isSome)
    (uncounted : ¬ RowsCounted (display.height.toNat / tileSize)) :
    drawTiled display region memory frame = .error .multiplication := by
  obtain ⟨table, tilemap⟩ := Option.isSome_iff_exists.mp tiles
  simp only [drawTiled, tilemap, drawTiles_stops _ _ _ _ safe uncounted]
  rfl

theorem drawRegion_eq {display : Display} {region : VideoRegion}
    (counted : region.effectiveFormat = .tilemap → region.tilemap.isSome →
      RowsCounted (display.height.toNat / tileSize))
    (bank : UInt8) (frame : Frame) :
    drawRegion display region memory bank frame =
      storeDots frame (regionDots display region memory bank) := by
  unfold drawRegion regionDots
  cases format : region.effectiveFormat with
  | mono | color => exact foldlM_storeDots _ _
  | tilemap => exact drawTiled_eq memory (counted format) frame

/-- A screen whose places words count is drawn as the picture that it shows. -/
theorem draw_eq_render (drawable : Drawable config) :
    draw config memory devices = .ok (render config memory devices) := by
  have few := drawable.screen
  unfold draw render
  rw [Frame.new_eq, if_pos few, ok_bind]
  cases video : config.memory.video with
  | none => rfl
  | some region =>
      obtain ⟨fit, painted⟩ := regionDots_spec config.display region memory devices.colorBank
      have stored := storeDots_eq_paint (.blank _ _) (Nat.le_of_lt few) fit
      dsimp only
      rw [drawRegion_eq memory (drawable.tiles region video), stored, painted, ok_bind]
      rfl

/-- No other screen is drawn. -/
theorem draw_stops (large : ¬ Drawable config) :
    draw config memory devices = .error .multiplication := by
  unfold draw
  rw [Frame.new_eq]
  by_cases few : config.display.width.toNat * config.display.height.toNat < UInt32.size
  · obtain ⟨region, video, format, tiles, uncounted⟩ : ∃ region ∈ config.memory.video,
        region.effectiveFormat = .tilemap ∧ region.tilemap.isSome ∧
          ¬ RowsCounted (config.display.height.toNat / tileSize) := by
      have some := mt (Drawable.mk few) large
      simpa only [not_forall, exists_prop] using some
    have safe := (Frame.Fills.blank config.display.width config.display.height).safe
      (Nat.le_of_lt few)
    rw [if_pos few, ok_bind, video]
    dsimp only
    rw [drawRegion, format]
    dsimp only
    rw [drawTiled_stops memory safe tiles uncounted]
    rfl
  · rw [if_neg few]
    rfl

theorem draw_eq :
    draw config memory devices =
      if Drawable config then .ok (render config memory devices) else .error .multiplication := by
  split
  · rename_i drawable
    exact draw_eq_render memory devices drawable
  · rename_i large
    exact draw_stops memory devices large

end Drawing

end Picture

end Cabinet
