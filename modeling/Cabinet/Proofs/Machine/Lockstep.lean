import Cabinet.Proofs.Machine.PortTraffic

/-!
# Machines in step

The ports are the only channel between a processor and whatever stands behind
its memory. Two machines with the same processor and the same memory therefore
stay together for as long as their input ports give the same bytes, in the order
in which they are asked for them.
-/

namespace Cabinet

/-- Records in which the same byte stands at the same place, as far as both of them go. -/
def SameBytes (first second : List (UInt8 × UInt8)) : Prop :=
  ∀ (index : Nat) (here there : UInt8 × UInt8),
    first[index]? = some here → second[index]? = some there → here.2 = there.2

theorem getElem?_of_isPrefix {α : Type} {earlier later : List α} (leads : earlier <+: later)
    {index : Nat} {entry : α} (found : earlier[index]? = some entry) :
    later[index]? = some entry := by
  obtain ⟨rest, rfl⟩ := leads
  obtain ⟨bound, -⟩ := List.getElem?_eq_some_iff.mp found
  rw [List.getElem?_append_left bound, found]

namespace SameBytes

variable {first second : List (UInt8 × UInt8)}

/-- The first parts of such records are such records. -/
theorem of_isPrefix (same : SameBytes first second) {earlier former : List (UInt8 × UInt8)}
    (left : earlier <+: first) (right : former <+: second) : SameBytes earlier former := by
  intro index here there found met
  exact same index here there (getElem?_of_isPrefix left found) (getElem?_of_isPrefix right met)

theorem last {past : List (UInt8 × UInt8)} {here there : UInt8 × UInt8}
    (same : SameBytes (past ++ [here]) (past ++ [there])) : here.2 = there.2 :=
  same past.length here there List.getElem?_concat_length List.getElem?_concat_length

end SameBytes

namespace Watched

variable {β γ : Type} [Bus β] [Bus γ] [Bus.OverMemory β] [Bus.OverMemory γ]

/-- Watched buses with the same memory and the same traffic until now. -/
structure Same (first : Watched β) (second : Watched γ) : Prop where
  memory : Bus.OverMemory.memory first.bus = Bus.OverMemory.memory second.bus
  received : first.received = second.received
  sent : first.sent = second.sent

theorem same_simulation :
    Bus.MemorySimulation (Same : Watched β → Watched γ → Prop) where
  read := by
    intro first second same address
    change Bus.read first.bus address = Bus.read second.bus address
    rw [Bus.OverMemory.read_eq, Bus.OverMemory.read_eq, same.memory]
  write := by
    intro first second same address value
    refine ⟨?_, same.received, same.sent⟩
    change Bus.OverMemory.memory (Bus.write first.bus address value) =
      Bus.OverMemory.memory (Bus.write second.bus address value)
    rw [Bus.OverMemory.memory_write, Bus.OverMemory.memory_write, same.memory]
  output := by
    intro first second same port value
    refine ⟨?_, same.received, congrArg (· ++ [(port, value)]) same.sent⟩
    change Bus.OverMemory.memory (Bus.output first.bus port value) =
      Bus.OverMemory.memory (Bus.output second.bus port value)
    rw [Bus.OverMemory.memory_output, Bus.OverMemory.memory_output, same.memory]

end Watched

namespace Machine

open Cpu

variable {β γ : Type} [Bus β] [Bus γ] [Bus.OverMemory β] [Bus.OverMemory γ]

theorem cpu_perform_input {γ : Type} [Bus γ] (machine : Machine γ) :
    (machine.perform .input).cpu =
      { machine.cpu with pc := machine.cpu.pc + 2, a := (machine.perform .input).cpu.a } := rfl

theorem memory_perform_input (machine : Machine β) :
    (machine.perform .input).memory = machine.memory :=
  Bus.OverMemory.memory_input machine.bus _

section

variable {first : Machine (Watched β)} {second : Machine (Watched γ)}

/-- Taking the same byte from a port leaves machines alike. -/
theorem Alike.perform_input_same (alike : Alike Watched.Same first second)
    (byte : (first.perform .input).cpu.a = (second.perform .input).cpu.a) :
    Alike Watched.Same (first.perform .input) (second.perform .input) := by
  have port : first.read (first.cpu.pc + 1) = second.read (second.cpu.pc + 1) :=
    alike.read Watched.same_simulation (congrArg (fun cpu => cpu.pc + 1) alike.cpu)
  refine ⟨?_, ?_, ?_, alike.bus.sent⟩
  · have cpu := cpu_perform_input first
    rw [byte, alike.cpu] at cpu
    exact cpu.trans (cpu_perform_input second).symm
  · exact (memory_perform_input first).trans
      (alike.bus.memory.trans (memory_perform_input second).symm)
  · rw [received_perform_input, received_perform_input, alike.bus.received, port, byte]

/-- A step leaves machines alike if it does not receive different bytes. -/
theorem Alike.step_same (alike : Alike Watched.Same first second)
    (bytes : SameBytes first.step.2.bus.received second.step.2.bus.received) :
    Alike Watched.Same first.step.2 second.step.2 := by
  refine alike.step_of_takes Watched.same_simulation ?_
  intro quiet running current
  have step := step_of_running quiet running
  have other := step_of_running (alike.cpu ▸ quiet) (alike.cpu ▸ running)
  rw [← alike.current Watched.same_simulation] at other
  rw [current] at step other
  -- The bytes that both sides take now stand behind the same past.
  rw [step, other, tick_bus, tick_bus, received_perform_input, received_perform_input,
    alike.bus.received] at bytes
  exact alike.perform_input_same bytes.last

/-- So does a whole run. -/
theorem Alike.follow_same (alike : Alike Watched.Same first second) (events : List Event)
    (bytes : SameBytes (first.follow events).bus.received (second.follow events).bus.received) :
    Alike Watched.Same (first.follow events) (second.follow events) := by
  apply alike.follow_of_step
  intro past leads met
  exact met.step_same
    (bytes.of_isPrefix (first.received_step_isPrefix leads) (second.received_step_isPrefix leads))

end

/-- Two machines that events lead the same way, and whose next steps take the same time. -/
structure InStep (first : Machine β) (second : Machine γ) (events : List Event) : Prop where
  cpu : (first.follow events).cpu = (second.follow events).cpu
  memory : (first.follow events).memory = (second.follow events).memory
  cost : (first.follow events).step.1 = (second.follow events).step.1
  received : first.received events = second.received events
  sent : first.sent events = second.sent events

/-- Machines that start alike and receive the same bytes are in step after every event. -/
theorem inStep_of_sameBytes {first : Machine β} {second : Machine γ}
    (cpu : first.cpu = second.cpu) (memory : first.memory = second.memory)
    {events : List Event} (bytes : SameBytes (first.received events) (second.received events))
    {past : List Event} (leads : past <+: events) : InStep first second past := by
  have start : Alike Watched.Same first.watched second.watched := ⟨cpu, memory, rfl, rfl⟩
  have alike := start.follow_same past
    (bytes.of_isPrefix (received_isPrefix first.watched leads)
      (received_isPrefix second.watched leads))
  have here := first.follow_watched past
  have there := second.follow_watched past
  constructor
  case cpu => rw [← here.cpu, ← there.cpu, alike.cpu]
  case memory =>
    have same := alike.bus.memory
    rw [here.bus, there.bus] at same
    exact same
  case cost =>
    calc (first.follow past).step.1
      _ = (first.watched.follow past).step.1 :=
        (here.step_cost Watched.simulation.toMemorySimulation).symm
      _ = (second.watched.follow past).step.1 := alike.step_cost Watched.same_simulation
      _ = (second.follow past).step.1 :=
        there.step_cost Watched.simulation.toMemorySimulation
  case received => exact alike.bus.received
  case sent => exact alike.bus.sent

end Machine

end Cabinet
