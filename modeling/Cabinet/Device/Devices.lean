import Cabinet.Device.Buttons
import Cabinet.Device.Handler
import Cabinet.Device.Shifter
import Cabinet.Text.Hex

/-!
# Devices

All that stands behind the ports: the shift register, the latches of sound,
screen and speech, counters, switches, the periscope and the controls as they
were last latched. Reading a port never changes anything; each kind of output
writes its own latch.
-/

namespace Cabinet

/--
The latches keep the last byte written to them, those of sound one for each channel
from channel 1 on. The switches `dip` are inside the cabinet, and `input` holds the
controls as they were latched at the beginning of the frame.
-/
structure Devices where
  shifter : Shifter := {}
  sound : Vector UInt8 8 := Vector.replicate 8 0
  videoPage : UInt8 := 0
  flipScreen : Bool := false
  colorBank : UInt8 := 0
  speechActive : Bool := false
  speechData : UInt8 := 0
  watchdogResets : UInt64 := 0
  coinLatch : UInt8 := 0
  coinsCounted : UInt32 := 0
  dip : UInt8 := 0
  periscope : UInt8 := 0
  input : Buttons := {}
deriving DecidableEq, Inhabited

namespace Devices

/-- Power-on state with the given switches. -/
def new (dip : UInt8) : Devices :=
  { dip }

/-- Power-on state; the switches are set as given. -/
def reset (_ : Devices) (dip : UInt8) : Devices :=
  new dip

def player1Bits : List (String × UInt8) := [
  ("p1_up", 0x01), ("p1_down", 0x02), ("p1_left", 0x04), ("p1_right", 0x08),
  ("p1_fire", 0x10), ("p1_fire2", 0x20), ("p1_start", 0x40)]

def player2Bits : List (String × UInt8) := [
  ("p2_up", 0x01), ("p2_down", 0x02), ("p2_left", 0x04), ("p2_right", 0x08),
  ("p2_fire", 0x10), ("p2_fire2", 0x20), ("p2_start", 0x40)]

def coinBits : List (String × UInt8) := [
  ("coin1", 0x01), ("coin2", 0x02), ("service", 0x04)]

def controlBits : List (String × UInt8) := [
  ("coin1", 0x01), ("p2_start", 0x02), ("p1_start", 0x04),
  ("p1_fire", 0x10), ("p1_left", 0x20), ("p1_right", 0x40)]

def stick1Bits : List (String × UInt8) := [
  ("p1_fire", 0x10), ("p1_left", 0x20), ("p1_right", 0x40)]

def stick2Bits : List (String × UInt8) := [
  ("tilt", 0x04), ("p2_fire", 0x10), ("p2_left", 0x20), ("p2_right", 0x40)]

/-- A bit that is wired high on some input ports. -/
def wiredHigh : UInt8 := 0x08

/-- The last position of the periscope. -/
def periscopeEnd : UInt8 := 0x0F

/-- Move the periscope one place left, as far as it goes. -/
def moveLeft (position : UInt8) : UInt8 :=
  if position = 0 then 0 else position - 1

/-- Move the periscope one place right, as far as it goes. -/
def moveRight (position : UInt8) : UInt8 :=
  min (position + 1) periscopeEnd

/-- Take the controls for the coming frame and move the periscope by them. -/
def latch (devices : Devices) (input : Buttons) : Devices :=
  let position := devices.periscope
  let position := if input.isHeld "p1_left" then moveLeft position else position
  let position := if input.isHeld "p1_right" then moveRight position else position
  { devices with periscope := position, input }

/-- Take the controls, unless a saved position of the periscope lies at the end of its type. -/
def latchM (devices : Devices) (input : Buttons) : Except Panic Devices :=
  if input.isHeld "p1_right" ∧ ¬ input.isHeld "p1_left" ∧ devices.periscope = 255 then
    .error .addition
  else .ok (devices.latch input)

/-- Take a saved state but keep the latched controls. -/
def restore (devices saved : Devices) : Devices :=
  { saved with input := devices.input }

/-- One bit for each sound channel whose latch is not zero; channel 1 has bit 0. -/
def soundStatus (devices : Devices) : UInt8 :=
  (List.range 8).foldl (fun sum index =>
    if devices.sound[index]? = some 0 then sum else sum ||| 1 <<< UInt8.ofNat index) 0

/-- What an input port with this handler reads. -/
def read (devices : Devices) : InHandler → UInt8
  | .dipSwitches => devices.dip
  | .player1 => devices.input.mask player1Bits
  | .player2 => devices.input.mask player2Bits
  | .playerControls => wiredHigh ||| devices.input.mask controlBits
  | .coin => devices.input.mask coinBits
  | .shiftResult => devices.shifter.result
  | .soundStatus => devices.soundStatus
  | .watchdog => 0
  | .dipWithPlayer2 => devices.dip ||| devices.input.mask stick2Bits
  | .cabinetControls => wiredHigh ||| devices.input.mask stick1Bits
  | .periscopePlayer1 =>
      devices.input.mask player1Bits ||| (devices.periscope &&& periscopeEnd) <<< 4
  | .stub => 0

/-- The effect of a byte on an output port with this handler. -/
def write (devices : Devices) (handler : OutHandler) (value : UInt8) : Devices :=
  match handler with
  | .shiftOffset => { devices with shifter := devices.shifter.setOffset value }
  | .shiftData => { devices with shifter := devices.shifter.push value }
  | .sound channel =>
      if channel = 0 then devices
      else { devices with sound := devices.sound.setIfInBounds (channel.toNat - 1) value }
  | .watchdogReset => { devices with watchdogResets := devices.watchdogResets + 1 }
  | .coinCounter =>
      let counted := value &&& 1 != 0 && devices.coinLatch &&& 1 == 0
      { devices with
        coinsCounted := if counted then devices.coinsCounted + 1 else devices.coinsCounted
        coinLatch := value }
  | .videoSelect => { devices with videoPage := value &&& 1 }
  | .flipScreen => { devices with flipScreen := value &&& 1 != 0 }
  | .colorBank => { devices with colorBank := value &&& 7 }
  | .speech => { devices with speechActive := value != 0 }
  | .speechData => { devices with speechData := value }
  | .stub => devices

/-! ## Ports -/

section Ports

variable {σ : Type} [Listener σ]

/-- Take a byte from an input port with this handler. -/
def readM (devices : Devices) (handler : InHandler) (port : UInt8) : Telling σ UInt8 :=
  match handler with
  | .shiftResult => devices.shifter.window
  | .stub => do
      tell ⟨.stubs, .trace, fun _ => s!"IN 0x{Hex.byte port} read from stub handler"⟩
      return 0
  | handler => return devices.read handler

/-- Put a byte to an output port with this handler. -/
def writeM (devices : Devices) (handler : OutHandler) (port value : UInt8) :
    Telling σ Devices :=
  match handler with
  | .watchdogReset => do
      let watchdogResets ← Checked.count devices.watchdogResets 1
      return { devices with watchdogResets }
  | .coinCounter =>
      if value &&& 1 != 0 && devices.coinLatch &&& 1 == 0 then do
        let coinsCounted ← Checked.add devices.coinsCounted 1
        return { devices with coinsCounted, coinLatch := value }
      else return { devices with coinLatch := value }
  | .stub => do
      tell ⟨.stubs, .trace, fun _ =>
        s!"OUT 0x{Hex.byte port} <- 0x{Hex.byte value} discarded by stub handler"⟩
      return devices
  | handler => return devices.write handler value

end Ports

/-! ## Saved state -/

/-- The saved form; the latched controls are not part of it. -/
def toJson (devices : Devices) : Json :=
  .object [
    ("coin_counter_latch", .ofNat devices.coinLatch.toNat),
    ("coins_counted", .ofNat devices.coinsCounted.toNat),
    ("color_bank", .ofNat devices.colorBank.toNat),
    ("dip", .ofNat devices.dip.toNat),
    ("flip_screen", .bool devices.flipScreen),
    ("periscope", .ofNat devices.periscope.toNat),
    ("shifter", devices.shifter.toJson),
    ("sound", .array (devices.sound.toList.map fun latch => .ofNat latch.toNat)),
    ("speech_active", .bool devices.speechActive),
    ("speech_data", .ofNat devices.speechData.toNat),
    ("video_page", .ofNat devices.videoPage.toNat),
    ("watchdog_resets", .ofNat devices.watchdogResets.toNat)]

open Json (Field Reader)

/-- One byte for each sound channel. -/
def soundReader : Reader (Vector UInt8 8) := fun node => do
  let latches ← Reader.array 8 Reader.uint8 node
  return Vector.ofFn fun channel => latches.getD channel.val 0

/-- The fields in the order in which an array lists them. -/
def fields : List Field := [
  .needed "shifter" Shifter.reader,
  .needed "sound" soundReader,
  .needed "video_page" Reader.uint8,
  .needed "flip_screen" Reader.bool,
  .needed "color_bank" Reader.uint8,
  .needed "speech_active" Reader.bool,
  .needed "speech_data" Reader.uint8,
  .needed "watchdog_resets" Reader.uint64,
  .needed "coin_counter_latch" Reader.uint8,
  .needed "coins_counted" Reader.uint32,
  .needed "dip" Reader.uint8,
  .needed "periscope" Reader.uint8]

/-- Read a saved state; nothing is latched in it. -/
def reader : Reader Devices := fun node => do
  let given ← Json.Fields.read "Devices" fields node
  return {
    shifter := ← given.required "shifter" Shifter.reader
    sound := ← given.required "sound" soundReader
    videoPage := ← given.required "video_page" Reader.uint8
    flipScreen := ← given.required "flip_screen" Reader.bool
    colorBank := ← given.required "color_bank" Reader.uint8
    speechActive := ← given.required "speech_active" Reader.bool
    speechData := ← given.required "speech_data" Reader.uint8
    watchdogResets := ← given.required "watchdog_resets" Reader.uint64
    coinLatch := ← given.required "coin_counter_latch" Reader.uint8
    coinsCounted := ← given.required "coins_counted" Reader.uint32
    dip := ← given.required "dip" Reader.uint8
    periscope := ← given.required "periscope" Reader.uint8 }

end Devices

end Cabinet
