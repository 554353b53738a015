import Cabinet.Board.Basic
import Cabinet.Cpu.Save
import Cabinet.Error
import Cabinet.Json.Place

/-!
# Saved states

A saved state is a JSON value that holds what the processor and the devices
remember and the contents of the declared memory regions, but no program images.
It names its format's version and its game; both have to be right when it is
taken back. A state that is refused leaves the board as it was.
-/

namespace Cabinet

open Json (Field Reader)

/-- The bytes of a memory region. -/
structure RamImage where
  start : UInt16
  bytes : List UInt8
deriving DecidableEq, Inhabited

/--
What is saved: the kind of machine, the version of the format, the name of the game and all
that changes while it runs.
-/
structure SavedState where
  system : String
  version : UInt32
  game : String
  frameIndex : UInt64
  cpu : Cpu
  devices : Devices
  ram : List RamImage
deriving DecidableEq, Inhabited

namespace RamImage

def toJson (image : RamImage) : Json :=
  .object [
    ("bytes", .array (image.bytes.map fun value => .ofNat value.toNat)),
    ("start", .ofNat image.start.toNat)]

def fields : List Field :=
  [.needed "start" Reader.uint16, .needed "bytes" (Reader.list Reader.uint8)]

def reader : Reader RamImage := fun node => do
  let given ← Json.Fields.read "RamSnapshot" fields node
  return {
    start := ← given.required "start" Reader.uint16
    bytes := ← given.required "bytes" (Reader.list Reader.uint8) }

/-- Copy the bytes back to where they were. -/
def place (memory : Memory) (image : RamImage) : Memory :=
  memory.load image.start image.bytes

end RamImage

namespace SavedState

/-- The kind of machine that is written into saved states. -/
def systemName : String := "arcade8080"

/-- The version of the format. -/
def currentVersion : UInt32 := 1

def toJson (state : SavedState) : Json :=
  .object [
    ("cpu", state.cpu.toJson),
    ("devices", state.devices.toJson),
    ("frame_index", .ofNat state.frameIndex.toNat),
    ("game", .string state.game),
    ("ram", .array (state.ram.map RamImage.toJson)),
    ("system", .string state.system),
    ("version", .ofNat state.version.toNat)]

/-- The fields in the order in which an array lists them. -/
def fields : List Field := [
  .needed "system" Reader.string,
  .needed "version" Reader.uint32,
  .needed "game" Reader.string,
  .needed "frame_index" Reader.uint64,
  .needed "cpu" Cpu.reader,
  .needed "devices" Devices.reader,
  .needed "ram" (Reader.list RamImage.reader)]

def reader : Reader SavedState := fun node => do
  let given ← Json.Fields.read "ArcadeState" fields node
  return {
    system := ← given.required "system" Reader.string
    version := ← given.required "version" Reader.uint32
    game := ← given.required "game" Reader.string
    frameIndex := ← given.required "frame_index" Reader.uint64
    cpu := ← given.required "cpu" Cpu.reader
    devices := ← given.required "devices" Devices.reader
    ram := ← given.required "ram" (Reader.list RamImage.reader) }

end SavedState

namespace Board

/-- The bytes of a declared memory region. -/
def ramImage (board : Board) (region : RamRegion) : RamImage :=
  ⟨region.start, board.memory.readRange region.start region.size⟩

/-- What is saved of a board. -/
def savedState (board : Board) : SavedState where
  system := SavedState.systemName
  version := SavedState.currentVersion
  game := board.config.name
  frameIndex := board.frameIndex
  cpu := board.machine.cpu
  devices := board.devices
  ram := board.config.memory.ram.map board.ramImage

def save (board : Board) : Json :=
  board.savedState.toJson

/-- Take back a state of this board's game; the waiting and the latched controls stay. -/
def withState (board : Board) (state : SavedState) : Board :=
  { board with
    machine := ⟨state.cpu.restored,
      { board.machine.bus with
        memory := state.ram.foldl RamImage.place board.memory
        devices := board.devices.restore state.devices }⟩
    frameIndex := state.frameIndex }

/-- Whether a state has the right version and is of this board's game. -/
def checkState (board : Board) (state : SavedState) : Except BoardError Unit :=
  if state.version ≠ SavedState.currentVersion then
    .error (.unsupportedStateVersion state.version)
  else if state.game ≠ board.config.name then
    .error (.stateMismatch board.config.name state.game)
  else .ok ()

/-- Read, check and take back a saved state. -/
def restore (board : Board) (value : Json) : Except BoardError Board := do
  let state ← (Json.readValue SavedState.reader value).mapError .config
  board.checkState state
  return board.withState state

end Board

/--
Why a saved state is refused, without the lead that problems of descriptions
have. A game's name at the end of the message may look like a place in a text,
and then it is written like one.
-/
def BoardError.stateMessage : BoardError → String
  | .config problem => problem.message
  | error => Json.Place.settle error.message

/-- Take back a saved state as `restore` does, with a text for what is wrong. -/
def Board.load (board : Board) (value : Json) : Except String Board :=
  (board.restore value).mapError BoardError.stateMessage

end Cabinet
