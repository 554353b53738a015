import Cabinet.Picture
import Cabinet.Proofs.Frame

/-!
# Pictures as functions of memory

What a picture shows, with all places counted as numbers without a bound, so that
there is a picture for every screen. Packed pixels are a table of stored values; tiles
and sprites are dots that are painted one over another on a blank frame.
-/

namespace Cabinet.Picture

/-- A picture of packed pixels with a colour for each stored value. -/
def packed (display : Display) (memory : Memory) (start : UInt16) (bits : Nat)
    (color : Nat → UInt32) : Frame :=
  let width := display.width.toNat
  let height := display.height.toNat
  let stride := stride bits (rowPixels display.rotation width height)
  { width := display.width
    height := display.height
    pixels := Array.ofFn fun index : Fin (width * height) =>
      let (column, row) :=
        unrotate display.rotation width height (index.val % width) (index.val / width)
      color (storedAt memory start bits stride column row) }

/-- Paint dots in order; those outside the frame are lost. -/
def paint (frame : Frame) (dots : List Dot) : Frame :=
  dots.foldl (fun frame dot => frame.set dot.x dot.y dot.value) frame

/-- The dots of all whole rows of tiles. -/
def tilesDots (memory : Memory) (shapes table : UInt16) (color : Nat → UInt32)
    (height : Nat) : List Dot :=
  (List.range (height / tileSize)).flatMap fun row =>
    (List.range tileColumns).flatMap fun column =>
      tileDots memory shapes table color (row * tileColumns + column) column row

/-- The dots of a picture: tiles if there is a table of them, then sprites if there are shapes. -/
def dots (display : Display) (region : VideoRegion) (memory : Memory) : List Dot :=
  let color := tileColor display.color
  let tiles := match region.tilemap with
    | some table => tilesDots memory region.start table color display.height.toNat
    | none => []
  let sprites := match region.sprites, region.patterns with
    | some table, some shapes => spritesDots memory table shapes color
    | _, _ => []
  tiles ++ sprites

/-- A picture of tiles and sprites. -/
def tiled (display : Display) (region : VideoRegion) (memory : Memory) : Frame :=
  paint (.blank display.width display.height) (dots display region memory)

/-- The picture of a region, not flipped. -/
def upright (display : Display) (region : VideoRegion) (memory : Memory) (bank : UInt8) :
    Frame :=
  match region.effectiveFormat with
  | .mono => packed display memory region.start 1 monoColor
  | .color => packed display memory region.start 2 (bankColor bank)
  | .tilemap => tiled display region memory

/-- The picture that is shown; without a picture region it is blank. -/
def render (config : Config) (memory : Memory) (devices : Devices) : Frame :=
  match config.memory.video with
  | none => .blank config.display.width config.display.height
  | some region =>
      let frame := upright config.display region memory devices.colorBank
      if devices.flipScreen then frame.flip else frame

/-! ## Sizes -/

theorem fills_paint {frame : Frame} {width height : UInt32} (fills : frame.Fills width height)
    (dots : List Dot) : (paint frame dots).Fills width height := by
  induction dots generalizing frame with
  | nil => exact fills
  | cons dot dots ih => exact ih (fills.set dot.x dot.y dot.value)

theorem fills_packed (display : Display) (memory : Memory) (start : UInt16) (bits : Nat)
    (color : Nat → UInt32) :
    (packed display memory start bits color).Fills display.width display.height :=
  ⟨rfl, rfl, Array.size_ofFn⟩

theorem fills_upright (display : Display) (region : VideoRegion) (memory : Memory)
    (bank : UInt8) :
    (upright display region memory bank).Fills display.width display.height := by
  unfold upright
  split
  · exact fills_packed ..
  · exact fills_packed ..
  · exact fills_paint (.blank _ _) _

/-- Whatever memory and the devices hold, the picture is as large as the screen. -/
theorem fills_render (config : Config) (memory : Memory) (devices : Devices) :
    (render config memory devices).Fills config.display.width config.display.height := by
  cases video : config.memory.video with
  | none =>
      simp only [render, video]
      exact .blank _ _
  | some region =>
      have fills := fills_upright config.display region memory devices.colorBank
      simp only [render, video]
      split
      · exact fills.flip
      · exact fills

end Cabinet.Picture
