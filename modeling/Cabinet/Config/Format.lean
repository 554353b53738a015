import Cabinet.Config.Validate
import Cabinet.Json.Reader

/-!
# Descriptions in JSON

The text form of a description. Parts with a default may be left out; ports are
keys of an object, written as decimal numbers. What is absent is not written,
except that a missing picture region is written as `null`.
-/

namespace Cabinet

open Json (Field Reader Node)

/-- A member that is written only when there is a value. -/
def Json.optionalMember {α : Type} (key : String) (encode : α → Json) :
    Option α → List (String × Json)
  | none => []
  | some value => [(key, encode value)]

def wordJson (value : UInt16) : Json :=
  .ofNat value.toNat

namespace Display

def toJson (display : Display) : Json :=
  .object [
    ("color", .bool display.color),
    ("height", .ofNat display.height.toNat),
    ("rotation", wordJson display.rotation),
    ("width", .ofNat display.width.toNat)]

def fields : List Field := [
  .needed "width" Reader.uint32,
  .needed "height" Reader.uint32,
  .defaulted "rotation" Reader.uint16,
  .defaulted "color" Reader.bool]

def reader : Reader Display := fun node => do
  let given ← Json.Fields.read "DisplayConfig" fields node
  return {
    width := ← given.required "width" Reader.uint32
    height := ← given.required "height" Reader.uint32
    rotation := ← given.defaultTo "rotation" Reader.uint16 0
    color := ← given.defaultTo "color" Reader.bool false }

end Display

namespace RomRegion

def toJson (region : RomRegion) : Json :=
  .object [
    ("end", wordJson region.stop),
    ("fileMatch", .string region.fileMatch),
    ("size", .ofNat region.size),
    ("start", wordJson region.start)]

def fields : List Field := [
  .needed "start" Reader.uint16,
  .needed "end" Reader.uint16,
  .needed "size" Reader.size,
  .needed "fileMatch" Reader.string]

def reader : Reader RomRegion := fun node => do
  let given ← Json.Fields.read "RomRegion" fields node
  return {
    start := ← given.required "start" Reader.uint16
    stop := ← given.required "end" Reader.uint16
    size := ← given.required "size" Reader.size
    fileMatch := ← given.required "fileMatch" Reader.string }

end RomRegion

namespace RamRegion

def toJson (region : RamRegion) : Json :=
  .object [
    ("end", wordJson region.stop),
    ("size", .ofNat region.size),
    ("start", wordJson region.start)]

def fields : List Field := [
  .needed "start" Reader.uint16,
  .needed "end" Reader.uint16,
  .needed "size" Reader.size]

def reader : Reader RamRegion := fun node => do
  let given ← Json.Fields.read "RamRegion" fields node
  return {
    start := ← given.required "start" Reader.uint16
    stop := ← given.required "end" Reader.uint16
    size := ← given.required "size" Reader.size }

end RamRegion

namespace VideoFormat

/-- The name that is written. -/
def name : VideoFormat → String
  | .mono => "1bpp"
  | .color => "color"
  | .tilemap => "tilemap"

/-- The names that are read. -/
def names : List String :=
  ["1bpp", "2bpp", "color", "tilemap"]

def toJson (format : VideoFormat) : Json :=
  .string format.name

/-- The colour format has two names. -/
def ofName (name : String) : Except Json.Problem VideoFormat :=
  match name with
  | "1bpp" => .ok .mono
  | "2bpp" | "color" => .ok .color
  | "tilemap" => .ok .tilemap
  | _ => .error (.unknownVariant name names)

/-- Nothing but `null` may stand behind a format's name. -/
def nothing : Reader Unit
  | .null => .ok ()
  | node => .error (node.mismatch "unit")

/--
A format is its name, or an object whose only member has the name as key and
`null` as value. Anything that is neither a string nor an object that begins
with a key is a fault of the text.
-/
def reader : Reader VideoFormat
  | .string name => do ofName (← Json.Fault.raise name)
  | .object ((key, value) :: rest) ending => do
      let format ← ofName (← Json.Fault.raise key.name)
      nothing value
      match rest, ending with
      | [], .closed | [], .counted _ => .ok format
      | [], .cut reason => .error (.text reason)
      | _, _ => .error (.text .malformed)
  | .object [] (.cut reason) => .error (.text reason)
  | .fault whenRead _ => .error (.text whenRead)
  | _ => .error (.text .malformed)

end VideoFormat

namespace VideoRegion

def toJson (region : VideoRegion) : Json :=
  .object (
    Json.optionalMember "end" wordJson region.stop ++
    Json.optionalMember "format" VideoFormat.toJson region.format ++
    Json.optionalMember "spritePatterns" wordJson region.patterns ++
    Json.optionalMember "sprites" wordJson region.sprites ++
    [("start", wordJson region.start)] ++
    Json.optionalMember "tilemap" wordJson region.tilemap)

def fields : List Field := [
  .needed "start" Reader.uint16,
  .defaulted "end" (Reader.option Reader.uint16),
  .defaulted "tilemap" (Reader.option Reader.uint16),
  .defaulted "sprites" (Reader.option Reader.uint16),
  .defaulted "spritePatterns" (Reader.option Reader.uint16),
  .defaulted "format" (Reader.option VideoFormat.reader)]

def reader : Reader VideoRegion := fun node => do
  let given ← Json.Fields.read "VideoRegion" fields node
  return {
    start := ← given.required "start" Reader.uint16
    stop := ← given.defaultTo "end" (Reader.option Reader.uint16) none
    tilemap := ← given.defaultTo "tilemap" (Reader.option Reader.uint16) none
    sprites := ← given.defaultTo "sprites" (Reader.option Reader.uint16) none
    patterns := ← given.defaultTo "spritePatterns" (Reader.option Reader.uint16) none
    format := ← given.defaultTo "format" (Reader.option VideoFormat.reader) none }

end VideoRegion

namespace MemoryMap

def toJson (memory : MemoryMap) : Json :=
  .object [
    ("ram", .array (memory.ram.map RamRegion.toJson)),
    ("rom", .array (memory.rom.map RomRegion.toJson)),
    ("video", .ofOption VideoRegion.toJson memory.video)]

def fields : List Field := [
  .defaulted "rom" (Reader.list RomRegion.reader),
  .defaulted "ram" (Reader.list RamRegion.reader),
  .defaulted "video" (Reader.option VideoRegion.reader)]

def reader : Reader MemoryMap := fun node => do
  let given ← Json.Fields.read "MemoryMap" fields node
  return {
    rom := ← given.defaultTo "rom" (Reader.list RomRegion.reader) []
    ram := ← given.defaultTo "ram" (Reader.list RamRegion.reader) []
    video := ← given.defaultTo "video" (Reader.option VideoRegion.reader) none }

end MemoryMap

namespace Wiring

def toJson (wiring : Wiring) : Json :=
  .object (wiring.toList.map fun connection =>
    (toString connection.1.toNat, .string connection.2))

/-- A port is a number in quotes, with nothing else between them. -/
def portOfKey (key : Json.Key) : Except Json.Problem UInt8 := do
  let (number, closed) ← Json.Fault.raise key.number
  let port ← Reader.integerBelow 256 "u8" number
  if closed then return UInt8.ofNat port else .error (.text .malformed)

/-- Connect ports in the order of the members; the last one of a port counts. -/
def ofMembers (wiring : Wiring) : List (Json.Key × Node) → Except Json.Problem Wiring
  | [] => .ok wiring
  | (key, value) :: members => do
      let port ← portOfKey key
      let name ← Reader.string value
      ofMembers (wiring.connect port name) members

def reader : Reader Wiring
  | .object members ending => do
      let wiring ← ofMembers empty members
      Reader.finish ending
      return wiring
  | .keyless _ => .error (.text .malformed)
  | node => .error (node.mismatch "a map")

end Wiring

namespace PortNames

def toJson (ports : PortNames) : Json :=
  .object [("in", ports.inputs.toJson), ("out", ports.outputs.toJson)]

def fields : List Field :=
  [.defaulted "in" Wiring.reader, .defaulted "out" Wiring.reader]

def reader : Reader PortNames := fun node => do
  let given ← Json.Fields.read "PortBindings" fields node
  return {
    inputs := ← given.defaultTo "in" Wiring.reader Wiring.empty
    outputs := ← given.defaultTo "out" Wiring.reader Wiring.empty }

end PortNames

namespace Interrupt

def toJson (interrupt : Interrupt) : Json :=
  .object [
    ("period", .ofNat interrupt.period.toNat),
    ("vector", .ofNat interrupt.vector.toNat)]

def fields : List Field :=
  [.needed "vector" Reader.uint8, .needed "period" Reader.uint32]

def reader : Reader Interrupt := fun node => do
  let given ← Json.Fields.read "InterruptSchedule" fields node
  return {
    vector := ← given.required "vector" Reader.uint8
    period := ← given.required "period" Reader.uint32 }

end Interrupt

namespace FrameTiming

def toJson (timing : FrameTiming) : Json :=
  .object [
    ("clockHz", .ofNat timing.clockHz.toNat),
    ("refreshHz", .ofNat timing.refreshHz.toNat)]

def fields : List Field :=
  [.needed "clockHz" Reader.uint32, .needed "refreshHz" Reader.uint32]

def reader : Reader FrameTiming := fun node => do
  let given ← Json.Fields.read "FrameTiming" fields node
  return {
    clockHz := ← given.required "clockHz" Reader.uint32
    refreshHz := ← given.required "refreshHz" Reader.uint32 }

end FrameTiming

namespace Config

/-- The switches as they are written. -/
def dipJson (dip : UInt8) : Json :=
  .object [("default", .ofNat dip.toNat)]

def dipFields : List Field :=
  [.defaulted "default" Reader.uint8]

def dipReader : Reader UInt8 := fun node => do
  let given ← Json.Fields.read "DipSettings" dipFields node
  given.defaultTo "default" Reader.uint8 0

def toJson (config : Config) : Json :=
  .object (
    [("dipSettings", dipJson config.dip),
      ("interrupts", .array (config.interrupts.map Interrupt.toJson))] ++
    Json.optionalMember "manufacturer" .string config.manufacturer ++
    [("memoryMap", config.memory.toJson),
      ("name", .string config.name),
      ("ports", config.ports.toJson),
      ("timing", config.timing.toJson),
      ("video", config.display.toJson)] ++
    Json.optionalMember "year" wordJson config.year)

/-- The fields in the order in which an array lists them. -/
def fields : List Field := [
  .needed "name" Reader.string,
  .defaulted "year" (Reader.option Reader.uint16),
  .defaulted "manufacturer" (Reader.option Reader.string),
  .defaulted "video" Display.reader,
  .needed "memoryMap" MemoryMap.reader,
  .defaulted "ports" PortNames.reader,
  .defaulted "interrupts" (Reader.list Interrupt.reader),
  .defaulted "dipSettings" dipReader,
  .defaulted "timing" FrameTiming.reader]

def reader : Reader Config := fun node => do
  let given ← Json.Fields.read "HardwareConfig" fields node
  return {
    name := ← given.required "name" Reader.string
    year := ← given.defaultTo "year" (Reader.option Reader.uint16) none
    manufacturer := ← given.defaultTo "manufacturer" (Reader.option Reader.string) none
    display := ← given.defaultTo "video" Display.reader {}
    memory := ← given.required "memoryMap" MemoryMap.reader
    ports := ← given.defaultTo "ports" PortNames.reader {}
    interrupts := ← given.defaultTo "interrupts" (Reader.list Interrupt.reader) []
    dip := ← given.defaultTo "dipSettings" dipReader 0
    timing := ← given.defaultTo "timing" FrameTiming.reader {} }

/-- Read and validate a description. -/
def ofText (text : String) : Except BoardError Config := do
  let config ← (Json.readText reader text).mapError .config
  config.validate
  return config

end Config

end Cabinet
