import Cabinet.Board.Basic
import Cabinet.Error

/-!
# Program images on a board

Images come to a board as a set of files, each of which finds its region by its
name, or one at a time to a mount point. Every program region is a mount point;
its identifier is the region's token. The first region with a token is the one
that its identifier names.
-/

namespace Cabinet

/-- Put a token at its place among tokens in ascending order. -/
def insertToken (token : String) : List String → List String
  | [] => [token]
  | other :: tokens =>
      if token = other then other :: tokens
      else if token < other then token :: other :: tokens
      else other :: insertToken token tokens

/--
A place for an image, as it is shown to the user, with the endings of file names to choose
from; none means any.
-/
structure MountPoint where
  id : String
  name : String
  extensions : List String := []
  required : Bool := true
deriving DecidableEq, Inhabited

/-- The mount point of a program region. -/
def RomRegion.mountPoint (region : RomRegion) : MountPoint where
  id := region.fileMatch
  name := s!"ROM 0x{Hex.word region.start}-0x{Hex.word region.stop}"

namespace Board

def romRegions (board : Board) : List RomRegion :=
  board.config.memory.rom

/-- What loading files would do. -/
def romReport (board : Board) (files : List RomFile) : RomReport :=
  .ofFiles board.romRegions files

/-- Copy files to their regions in order. -/
def loadRoms (board : Board) (files : List RomFile) : Board :=
  { board.mapMemory fun memory => RomFile.placeAll board.romRegions memory files with
    mounted := (board.romReport files).loaded.foldl
      (fun mounted rom => insertToken rom.token mounted) board.mounted }

/-- What is said while files are loaded. -/
def loadNotes (board : Board) (files : List RomFile) : List Log.Note :=
  files.map (RomFile.note board.romRegions)

/-! ## Mount points -/

def mountPoints (board : Board) : List MountPoint :=
  board.romRegions.map RomRegion.mountPoint

/-- The region that an identifier names. -/
def region? (board : Board) (id : String) : Option RomRegion :=
  board.romRegions.find? fun region => region.isNamed id

/-- The region that an identifier names, or why there is none. -/
def region (board : Board) (id : String) : Except BoardError RomRegion :=
  match board.region? id with
  | some region => .ok region
  | none => .error (.invalidMountPoint id)

/-- Copy an image to a region, whose remaining bytes become zero. -/
def mount (board : Board) (id : String) (bytes : List UInt8) : Except BoardError Board := do
  let region ← board.region id
  return { board.mapMemory fun memory => region.place (region.wipe memory) bytes with
    mounted := insertToken region.fileMatch board.mounted }

/-- What is said when an image is mounted. -/
def mountNotes (board : Board) (id : String) (bytes : List UInt8) : List Log.Note :=
  match board.region? id with
  | some region => [region.placeNote id bytes]
  | none => []

/-- Set a region's bytes to zero. -/
def unmount (board : Board) (id : String) : Except BoardError Board := do
  let region ← board.region id
  return { board.mapMemory region.wipe with
    mounted := board.mounted.filter fun token => token != region.fileMatch }

/-- Whether the region that an identifier names holds an image. -/
def isMounted (board : Board) (id : String) : Bool :=
  match board.region? id with
  | some region => board.mounted.contains region.fileMatch
  | none => false

end Board

end Cabinet
