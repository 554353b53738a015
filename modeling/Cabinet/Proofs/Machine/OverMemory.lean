import Cabinet.Cpu.Machine
import Cabinet.Device.SystemBus
import Cabinet.Proofs.Cpu.Word

/-!
# Machines over memory

Most of what is true of programs holds for any bus whose bytes are those of a
memory and whose ports leave this memory alone. Memory itself is such a bus, and
so are the scripted bus and the board's bus. On all of them a word that is put
on the stack is the next one to be taken from it.
-/

namespace Cabinet

/-- A bus that reads and writes a memory, apart from whatever its ports are connected to. -/
class Bus.OverMemory (β : Type) [Bus β] where
  memory : β → Memory
  read_eq : ∀ bus address, Bus.read bus address = (memory bus).read address
  memory_write : ∀ bus address value,
    memory (Bus.write bus address value) = (memory bus).write address value
  memory_input : ∀ bus port, memory (Bus.input bus port).2 = memory bus
  memory_output : ∀ bus port value, memory (Bus.output bus port value) = memory bus

instance : Bus.OverMemory Memory where
  memory := id
  read_eq _ _ := rfl
  memory_write _ _ _ := rfl
  memory_input _ _ := rfl
  memory_output _ _ _ := rfl

instance : Bus.OverMemory ScriptedBus where
  memory := ScriptedBus.memory
  read_eq _ _ := rfl
  memory_write _ _ _ := rfl
  memory_input _ _ := rfl
  memory_output _ _ _ := rfl

theorem SystemBus.memory_output (bus : SystemBus) (port value : UInt8) :
    (bus.output port value).memory = bus.memory := by
  unfold SystemBus.output
  split <;> rfl

instance : Bus.OverMemory SystemBus where
  memory := SystemBus.memory
  read_eq _ _ := rfl
  memory_write _ _ _ := rfl
  memory_input _ _ := rfl
  memory_output := SystemBus.memory_output

namespace Machine

open Cpu

variable {β : Type} [Bus β] [Bus.OverMemory β]

/-- What the machine's memory holds. -/
def memory (machine : Machine β) : Memory :=
  Bus.OverMemory.memory machine.bus

theorem read_eq (machine : Machine β) (address : UInt16) :
    machine.read address = machine.memory.read address :=
  Bus.OverMemory.read_eq machine.bus address

@[simp] theorem memory_write (machine : Machine β) (address : UInt16) (value : UInt8) :
    (machine.write address value).memory = machine.memory.write address value :=
  Bus.OverMemory.memory_write machine.bus address value

/-! ## The stack -/

theorem memory_push (machine : Machine β) (word : UInt16) :
    (machine.push word).memory =
      (machine.memory.write (machine.cpu.sp - 1) (highByte word)).write (machine.cpu.sp - 2)
        (lowByte word) := by
  rw [← memory_write, ← memory_write]
  rfl

/-- Putting a word on the stack changes no byte but the two below the stack pointer. -/
theorem read_push_of_ne (machine : Machine β) (word : UInt16) {address : UInt16}
    (high : machine.cpu.sp - 1 ≠ address) (low : machine.cpu.sp - 2 ≠ address) :
    (machine.push word).read address = machine.read address := by
  rw [read_eq, memory_push, Memory.read_write_of_ne _ _ low, Memory.read_write_of_ne _ _ high,
    read_eq]

/-- The word on top of the stack is the one that was put there. -/
theorem readWord_push (machine : Machine β) (word : UInt16) :
    (machine.push word).readWord (machine.cpu.sp - 2) = word := by
  have above : machine.cpu.sp - 2 + 1 = machine.cpu.sp - 1 := by
    grind
  have apart : machine.cpu.sp - 2 ≠ machine.cpu.sp - 1 := by
    grind
  rw [readWord, read_eq, read_eq, memory_push, above, Memory.read_write_of_ne _ _ apart,
    Memory.read_write_same, Memory.read_write_same, joinBytes_highByte_lowByte]

end Machine

end Cabinet
