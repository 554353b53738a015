import Cabinet.Config.Basic
import Cabinet.Device.Devices
import Cabinet.Frame
import Cabinet.Memory

/-!
# Pictures

How picture memory becomes a frame. A packed picture stores its pixels with the
most significant bits first, one row of the unrotated screen after another; each
row starts at a new byte. A picture of tiles has eight by eight tiles with two
bits for each pixel in 32 columns, and over them up to 64 sprites of sixteen by
sixteen pixels with one bit each; zero is transparent in both.
-/

namespace Cabinet

namespace Picture

/-- The value of a lit pixel on monochrome screens. -/
def lit : UInt32 := 255

/-! ## Packed pictures -/

/-- The number of pixels in one stored row. -/
def rowPixels (rotation : UInt16) (width height : Nat) : Nat :=
  if rotation = 90 ∨ rotation = 270 then height else width

/-- Where the pixel at column `x` of row `y` is on the unrotated screen. -/
def unrotate (rotation : UInt16) (width height x y : Nat) : Nat × Nat :=
  if rotation = 90 then (height - 1 - y, x)
  else if rotation = 180 then (width - 1 - x, height - 1 - y)
  else if rotation = 270 then (y, width - 1 - x)
  else (x, y)

/-- The number of pixels in a byte. -/
def pixelsPerByte (bits : Nat) : Nat :=
  8 / bits

/-- The number of bytes in a stored row. -/
def stride (bits rowPixels : Nat) : Nat :=
  (rowPixels + (pixelsPerByte bits - 1)) / pixelsPerByte bits

/-- The field of `bits` bits at a position in a byte; position 0 is the most significant. -/
def field (bits : Nat) (byte : UInt8) (position : Nat) : Nat :=
  byte.toNat / Nat.pow 2 (8 - bits - position * bits) % Nat.pow 2 bits

/-- The stored value at a column and a row of the unrotated screen. -/
def storedAt (memory : Memory) (start : UInt16) (bits stride column row : Nat) : Nat :=
  let perByte := pixelsPerByte bits
  let offset := row * stride + column / perByte
  field bits (memory.read (start + UInt16.ofNat offset)) (column % perByte)

/-- Monochrome pixels are off or lit. -/
def monoColor (value : Nat) : UInt32 :=
  if value = 0 then 0 else lit

/-- Palette entries of the selected bank of four. -/
def bankColor (bank : UInt8) (value : Nat) : UInt32 :=
  bank.toUInt32 <<< 2 ||| UInt32.ofNat value

/-! ## Tiles and sprites -/

/-- A pixel to be painted. -/
structure Dot where
  x : Nat
  y : Nat
  value : UInt32
deriving DecidableEq

def tileSize : Nat := 8

def tileColumns : Nat := 32

def spriteSize : Nat := 16

def spriteCount : Nat := 64

/-- The stored value of every pixel of a sprite. -/
def spriteShade : Nat := 3

/-- Whether the bit for a column is set; column 0 is the most significant bit. -/
def bitAt (byte : UInt8) (column : Nat) : Bool :=
  byte.toNat.testBit (7 - column)

/-- The value of a pixel of the tile whose shape starts at `shape`. -/
def tileValue (memory : Memory) (shape : UInt16) (column row : Nat) : Nat :=
  let low := memory.read (shape + UInt16.ofNat (2 * row))
  let high := memory.read (shape + UInt16.ofNat (2 * row + 1))
  (bitAt low column).toNat + 2 * (bitAt high column).toNat

/-- Where the shape of the tile at a place of the table starts. -/
def tileShape (memory : Memory) (shapes table : UInt16) (place : Nat) : UInt16 :=
  let number := memory.read (table + UInt16.ofNat place)
  shapes + number.toUInt16 * 16

/-- The dots of the tile at a place of the table, shown in a column and a row. -/
def tileDots (memory : Memory) (shapes table : UInt16) (color : Nat → UInt32)
    (place column row : Nat) : List Dot :=
  let shape := tileShape memory shapes table place
  (List.range tileSize).flatMap fun v =>
    (List.range tileSize).filterMap fun u =>
      let value := tileValue memory shape u v
      if value = 0 then none
      else some ⟨column * tileSize + u, row * tileSize + v, color value⟩

/-- Whether a pixel of the sprite whose shape starts at `shape` is set. -/
def spriteBit (memory : Memory) (shape : UInt16) (column row : Nat) : Bool :=
  bitAt (memory.read (shape + UInt16.ofNat (2 * row + column / 8))) (column % 8)

/--
The dots of one entry of the sprite table, which holds the row, the column, the
number of the shape and a byte without meaning. An entry with a zero row or
column is not shown.
-/
def spriteDots (memory : Memory) (table shapes : UInt16) (color : Nat → UInt32)
    (index : Nat) : List Dot :=
  let entry := table + UInt16.ofNat (index * 4)
  let y := memory.read entry
  let x := memory.read (entry + 1)
  if x = 0 ∨ y = 0 then []
  else
    let shape := shapes + (memory.read (entry + 2)).toUInt16 * 32
    (List.range spriteSize).flatMap fun v =>
      (List.range spriteSize).filterMap fun u =>
        if spriteBit memory shape u v then some ⟨x.toNat + u, y.toNat + v, color spriteShade⟩
        else none

/-- The dots of the whole sprite table. -/
def spritesDots (memory : Memory) (table shapes : UInt16) (color : Nat → UInt32) : List Dot :=
  (List.range spriteCount).flatMap (spriteDots memory table shapes color)

/-- On colour screens a value is its own colour; on others it is lit. -/
def tileColor (color : Bool) (value : Nat) : UInt32 :=
  if color then UInt32.ofNat value else lit

/-! ## Drawing -/

/-- Store dots in order, up to one that has no value to replace. -/
def storeDots (frame : Frame) (dots : List Dot) : Except Panic Frame :=
  dots.foldlM (fun frame dot => frame.store (.ofNat dot.x) (.ofNat dot.y) dot.value) frame

/-- The dots of a row of packed pixels. -/
def rowDots (display : Display) (memory : Memory) (start : UInt16) (bits : Nat)
    (color : Nat → UInt32) (y : Nat) : List Dot :=
  let width := display.width.toNat
  let height := display.height.toNat
  let stride := stride bits (rowPixels display.rotation width height)
  (List.range width).map fun x =>
    let (column, row) := unrotate display.rotation width height x y
    ⟨x, y, color (storedAt memory start bits stride column row)⟩

/-- Draw packed pixels with a colour for each stored value, row after row. -/
def drawPacked (display : Display) (memory : Memory) (start : UInt16) (bits : Nat)
    (color : Nat → UInt32) (frame : Frame) : Except Panic Frame :=
  (List.range display.height.toNat).foldlM (fun frame y =>
    storeDots frame (rowDots display memory start bits color y)) frame

/-- Where a tile is in the table. -/
def tilePlace (column row : Nat) : Except Panic Nat := do
  let first ← Checked.mul (.ofNat row) (.ofNat tileColumns)
  let place ← Checked.add first (.ofNat column)
  return place.toNat

/-- Draw all whole rows of tiles. -/
def drawTiles (memory : Memory) (shapes table : UInt16) (color : Nat → UInt32) (height : Nat)
    (frame : Frame) : Except Panic Frame :=
  (List.range (height / tileSize)).foldlM (fun frame row =>
    (List.range tileColumns).foldlM (fun frame column => do
      let place ← tilePlace column row
      storeDots frame (tileDots memory shapes table color place column row)) frame) frame

/-- Draw sprites if there are a table of them and shapes. -/
def drawSprites (display : Display) (region : VideoRegion) (memory : Memory) (frame : Frame) :
    Except Panic Frame :=
  match region.sprites, region.patterns with
  | some table, some shapes =>
      storeDots frame (spritesDots memory table shapes (tileColor display.color))
  | _, _ => .ok frame

/-- Draw tiles if there is a table of them, then sprites. -/
def drawTiled (display : Display) (region : VideoRegion) (memory : Memory) (frame : Frame) :
    Except Panic Frame := do
  let color := tileColor display.color
  let frame ← match region.tilemap with
    | some table => drawTiles memory region.start table color display.height.toNat frame
    | none => pure frame
  drawSprites display region memory frame

/-- Draw the picture of a region, not flipped. -/
def drawRegion (display : Display) (region : VideoRegion) (memory : Memory) (bank : UInt8)
    (frame : Frame) : Except Panic Frame :=
  match region.effectiveFormat with
  | .mono => drawPacked display memory region.start 1 monoColor frame
  | .color => drawPacked display memory region.start 2 (bankColor bank) frame
  | .tilemap => drawTiled display region memory frame

/-- Draw the picture that is shown; without a picture region it is blank. -/
def draw (config : Config) (memory : Memory) (devices : Devices) : Except Panic Frame := do
  let frame ← Frame.new config.display.width config.display.height
  match config.memory.video with
  | none => return frame
  | some region =>
      let frame ← drawRegion config.display region memory devices.colorBank frame
      return if devices.flipScreen then frame.flip else frame

/-- What is said about a picture. -/
def notes (config : Config) : List Log.Note :=
  match config.memory.video with
  | none => []
  | some region =>
      if region.effectiveFormat = .tilemap ∧ region.sprites.isSome ∧ region.patterns.isNone then
        [⟨.stubs, .debug, fun _ =>
          s!"{config.name}: sprite table without pattern data, sprites skipped"⟩]
      else []

/-- Draw the picture and tell what there is to say about it. -/
def drawM {σ : Type} [Listener σ] (config : Config) (memory : Memory) (devices : Devices) :
    Telling σ Frame := do
  let frame ← draw config memory devices
  (notes config).forM tell
  return frame

end Picture

end Cabinet
