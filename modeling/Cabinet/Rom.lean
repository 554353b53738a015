import Cabinet.Config.Basic
import Cabinet.Log
import Cabinet.Memory
import Cabinet.Text.Hex

/-!
# Program images

Image files have no header. A file belongs to the first program region whose
token occurs in its name; it is copied there as far as the region's size
reaches. Files that belong nowhere are skipped.
-/

namespace Cabinet

open Log

/-- An image under the name of its file. -/
structure RomFile where
  name : String
  bytes : List UInt8
deriving DecidableEq, Inhabited

/--
A file that was copied to the region with a token: how many of its bytes fit, and how many
are beyond the region's size.
-/
structure LoadedRom where
  file : String
  token : String
  start : UInt16
  loaded : Nat
  ignored : Nat
deriving DecidableEq, Inhabited

/--
What became of a set of files: those that were copied, and the names of those that belong
nowhere.
-/
structure RomReport where
  loaded : List LoadedRom
  skipped : List String
deriving DecidableEq, Inhabited

namespace RomRegion

/-- Copy an image into the region, no further than its size. -/
def place (region : RomRegion) (memory : Memory) (bytes : List UInt8) : Memory :=
  memory.load region.start (bytes.take region.size)

/-- Set the region's bytes to zero. -/
def wipe (region : RomRegion) (memory : Memory) : Memory :=
  memory.fill region.start region.size 0

/-- The number of bytes of an image that the region takes. -/
def fits (region : RomRegion) (bytes : List UInt8) : Nat :=
  min bytes.length region.size

/-- What is said when an image is copied under a name. -/
def placeNote (region : RomRegion) (name : String) (bytes : List UInt8) : Note :=
  ⟨.bus, .info, fun _ =>
    s!"Loaded {name} at 0x{Hex.word region.start} ({region.fits bytes} bytes)"⟩

end RomRegion

namespace RomFile

/-- The region that a file belongs to. -/
def region? (file : RomFile) (regions : List RomRegion) : Option RomRegion :=
  regions.find? fun region => region.accepts file.name

/-- Copy a file to its region, if it has one. -/
def place (regions : List RomRegion) (memory : Memory) (file : RomFile) : Memory :=
  match file.region? regions with
  | some region => region.place memory file.bytes
  | none => memory

/-- Copy files in order. -/
def placeAll (regions : List RomRegion) (memory : Memory) (files : List RomFile) : Memory :=
  files.foldl (place regions) memory

/-- What becomes of a file, unless it is skipped. -/
def loaded? (regions : List RomRegion) (file : RomFile) : Option LoadedRom :=
  (file.region? regions).map fun region => {
    file := file.name
    token := region.fileMatch
    start := region.start
    loaded := region.fits file.bytes
    ignored := file.bytes.length - region.fits file.bytes }

/-- What is said about a file. -/
def note (regions : List RomRegion) (file : RomFile) : Note :=
  match file.region? regions with
  | some region => region.placeNote file.name file.bytes
  | none => ⟨.bus, .info, fun _ => s!"Skipping {file.name}: no ROM region matches"⟩

end RomFile

namespace RomReport

/-- What becomes of files that are copied in order. -/
def ofFiles (regions : List RomRegion) (files : List RomFile) : RomReport where
  loaded := files.filterMap (RomFile.loaded? regions)
  skipped := (files.filter fun file => (file.region? regions).isNone).map RomFile.name

/-- Whether a file went to a region with this token and start. -/
def covers (report : RomReport) (region : RomRegion) : Bool :=
  report.loaded.any fun rom => rom.token == region.fileMatch && rom.start == region.start

/-- The regions that received no file, in order. -/
def missing (report : RomReport) (regions : List RomRegion) : List RomRegion :=
  regions.filter fun region => !report.covers region

end RomReport

end Cabinet
