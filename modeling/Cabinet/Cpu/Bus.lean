import Cabinet.Effect
import Cabinet.Memory

/-!
# Buses

A bus is what the processor reaches outside itself: bytes of memory and 256
input and 256 output ports. Memory alone is a bus whose ports are connected to
nothing. A scripted bus answers input from prepared lists and writes down what
is put out.
-/

namespace Cabinet

/-- What the processor can do to the rest of the machine. -/
class Bus (β : Type) where
  read : β → UInt16 → UInt8
  write : β → UInt16 → UInt8 → β
  input : β → UInt8 → UInt8 × β
  output : β → UInt8 → UInt8 → β

/-- A bus that tells what there is to say about the use of its ports. -/
class TellingBus (β : Type) where
  inputM {σ : Type} [Listener σ] : β → UInt8 → Telling σ (UInt8 × β)
  outputM {σ : Type} [Listener σ] : β → UInt8 → UInt8 → Telling σ β

/-- With nothing connected, input reads zero and output is lost. -/
instance Memory.bus : Bus Memory where
  read := Memory.read
  write := Memory.write
  input memory _ := (0, memory)
  output memory _ _ := memory

instance : TellingBus Memory where
  inputM memory port := return Bus.input memory port
  outputM memory port value := return Bus.output memory port value

/--
Memory with the bytes that each port still has to give, of which the last one is
given forever, and a record of what was put out, the latest first.
-/
structure ScriptedBus where
  memory : Memory
  script : List (UInt8 × List UInt8) := []
  record : List (UInt8 × UInt8) := []

namespace ScriptedBus

/-- Take the next byte of a list, keeping the last one. -/
def nextByte : List UInt8 → UInt8 × List UInt8
  | [] => (0, [])
  | [value] => (value, [value])
  | value :: rest => (value, rest)

/-- Take the next byte of the first list for `port`; a port without a list reads zero. -/
def take (port : UInt8) : List (UInt8 × List UInt8) → UInt8 × List (UInt8 × List UInt8)
  | [] => (0, [])
  | (other, values) :: script =>
      if other = port then
        let (value, rest) := nextByte values
        (value, (other, rest) :: script)
      else
        let (value, rest) := take port script
        (value, (other, values) :: rest)

/-- The pairs of port and byte that were put out, in order. -/
def outputs (bus : ScriptedBus) : List (UInt8 × UInt8) :=
  bus.record.reverse

instance : Bus ScriptedBus where
  read bus address := bus.memory.read address
  write bus address value := { bus with memory := bus.memory.write address value }
  input bus port :=
    let (value, script) := take port bus.script
    (value, { bus with script })
  output bus port value := { bus with record := (port, value) :: bus.record }

instance : TellingBus ScriptedBus where
  inputM bus port := return Bus.input bus port
  outputM bus port value := return Bus.output bus port value

end ScriptedBus

end Cabinet
