import Cabinet.Cpu.Bus
import Cabinet.Device.Devices
import Cabinet.Device.PortTable

/-!
# The board's bus

Memory, the port table and the devices behind it. A port without a handler
reads zero and loses what is written to it.
-/

namespace Cabinet

structure SystemBus where
  memory : Memory := Memory.zero
  ports : PortTable := {}
  devices : Devices := {}
deriving DecidableEq

namespace SystemBus

/-- Copy bytes to memory, from `start` on. -/
def load (bus : SystemBus) (start : UInt16) (values : List UInt8) : SystemBus :=
  { bus with memory := bus.memory.load start values }

/-- Set `count` bytes of memory to one value, from `start` on. -/
def fill (bus : SystemBus) (start : UInt16) (count : Nat) (value : UInt8) : SystemBus :=
  { bus with memory := bus.memory.fill start count value }

/-- `count` bytes of memory, from `start` on. -/
def readRange (bus : SystemBus) (start : UInt16) (count : Nat) : List UInt8 :=
  bus.memory.readRange start count

/-- Take a byte from an input port. -/
def input (bus : SystemBus) (port : UInt8) : UInt8 :=
  match bus.ports.input? port with
  | some handler => bus.devices.read handler
  | none => 0

/-- Put a byte to an output port. -/
def output (bus : SystemBus) (port value : UInt8) : SystemBus :=
  match bus.ports.output? port with
  | some handler => { bus with devices := bus.devices.write handler value }
  | none => bus

instance : Bus SystemBus where
  read bus address := bus.memory.read address
  write bus address value := { bus with memory := bus.memory.write address value }
  input bus port := (bus.input port, bus)
  output := output

instance : TellingBus SystemBus where
  inputM bus port :=
    match bus.ports.input? port with
    | some handler => do
        let value ← bus.devices.readM handler port
        return (value, bus)
    | none => do
        tell ⟨.io, .trace, fun _ => s!"IN 0x{Hex.byte port}: unbound port"⟩
        return (0, bus)
  outputM bus port value :=
    match bus.ports.output? port with
    | some handler => do
        let devices ← bus.devices.writeM handler port value
        return { bus with devices }
    | none => do
        tell ⟨.io, .trace, fun _ =>
          s!"OUT 0x{Hex.byte port} <- 0x{Hex.byte value}: unbound port"⟩
        return bus

end SystemBus

end Cabinet
