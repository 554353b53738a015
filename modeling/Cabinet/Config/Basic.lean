import Cabinet.Text.Ascii

/-!
# Board descriptions

A description says what a cabinet consists of: the screen, the regions of the
address space, the names of what its ports are connected to, the interrupts it
raises, its switches and its timing.
-/

namespace Cabinet

/-- The screen as the player sees it, and its clockwise rotation in degrees. -/
structure Display where
  width : UInt32 := 256
  height : UInt32 := 224
  rotation : UInt16 := 0
  color : Bool := false
deriving DecidableEq, Inhabited

/-- A place for a program image; the names of its image files contain a token. -/
structure RomRegion where
  start : UInt16
  stop : UInt16
  size : Nat
  fileMatch : String
deriving DecidableEq, Inhabited

structure RamRegion where
  start : UInt16
  stop : UInt16
  size : Nat
deriving DecidableEq, Inhabited

/--
How picture memory is laid out: one bit for each pixel, two bits for each pixel, or tiles
and sprites.
-/
inductive VideoFormat where
  | mono
  | color
  | tilemap
deriving DecidableEq, Inhabited

/--
Where picture memory is. Tiles and sprites need a table of tile numbers, one of sprites and
one of sprite shapes, which have sixteen by sixteen pixels and take 32 bytes each.
-/
structure VideoRegion where
  start : UInt16
  stop : Option UInt16 := none
  tilemap : Option UInt16 := none
  sprites : Option UInt16 := none
  patterns : Option UInt16 := none
  format : Option VideoFormat := none
deriving DecidableEq, Inhabited

structure MemoryMap where
  rom : List RomRegion := []
  ram : List RamRegion := []
  video : Option VideoRegion := none
deriving DecidableEq, Inhabited

/-- For each port the name of what it is connected to, if anything. -/
abbrev Wiring : Type := Vector (Option String) 256

/-- The names bound to input and output ports. -/
structure PortNames where
  inputs : Wiring := Vector.replicate 256 none
  outputs : Wiring := Vector.replicate 256 none
deriving DecidableEq, Inhabited

/-- A vector raised after every frame whose index is a multiple of the period. -/
structure Interrupt where
  vector : UInt8
  period : UInt32
deriving DecidableEq, Inhabited

/-- The processor clock and the frame rate. -/
structure FrameTiming where
  clockHz : UInt32 := 2000000
  refreshHz : UInt32 := 60
deriving DecidableEq, Inhabited

structure Config where
  name : String
  year : Option UInt16 := none
  manufacturer : Option String := none
  display : Display := {}
  memory : MemoryMap
  ports : PortNames := {}
  interrupts : List Interrupt := []
  dip : UInt8 := 0
  timing : FrameTiming := {}
deriving DecidableEq, Inhabited

namespace Wiring

/-- No port is connected. -/
def empty : Wiring := Vector.replicate 256 none

/-- Connect a port, in place of what it was connected to. -/
def connect (wiring : Wiring) (port : UInt8) (name : String) : Wiring :=
  wiring.set port.toNat (some name) port.toNat_lt

/-- Connections in order; the last one of a port counts. -/
def ofList (connections : List (UInt8 × String)) : Wiring :=
  connections.foldl (fun wiring connection => wiring.connect connection.1 connection.2) empty

/-- The name bound to a port. -/
def name? (wiring : Wiring) (port : UInt8) : Option String :=
  have bound : port.toNat < 256 := port.toNat_lt
  wiring[port.toNat]

/-- The connected ports in ascending order with their names. -/
def toList (wiring : Wiring) : List (UInt8 × String) :=
  (List.range 256).filterMap fun index =>
    let port := UInt8.ofNat index
    (wiring.name? port).map (port, ·)

end Wiring

namespace RomRegion

/-- Whether the token occurs in a file name. -/
def accepts (region : RomRegion) (fileName : String) : Bool :=
  Text.occursIn (Text.lower region.fileMatch) (Text.lower fileName)

/-- Whether an identifier is the token. -/
def isNamed (region : RomRegion) (id : String) : Bool :=
  Text.sameLetters region.fileMatch id

end RomRegion

namespace VideoRegion

/-- The format in force: as declared, or tiles if there are tables for them, or one bit. -/
def effectiveFormat (region : VideoRegion) : VideoFormat :=
  match region.format with
  | some format => format
  | none =>
      if region.tilemap.isSome || region.sprites.isSome then .tilemap else .mono

end VideoRegion

namespace FrameTiming

/-- Clock states for each frame, rounded down. -/
def cyclesPerFrame (timing : FrameTiming) : Nat :=
  timing.clockHz.toNat / max timing.refreshHz.toNat 1

end FrameTiming

namespace Config

/-- Clock states for each frame. -/
def cyclesPerFrame (config : Config) : Nat :=
  config.timing.cyclesPerFrame

end Config

end Cabinet
