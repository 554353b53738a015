import Cabinet.Cpu.Machine
import Cabinet.Text.Hex

/-!
# Execution

The steps of a machine with all that they do beside their results. An executed
instruction tells one trace note, with the registers as they are before it, and
the port that it uses may tell more; accepting an interrupt tells a note of
another category, and idling tells none. The counters are checked: a step that
counts beyond the end of one of them ends in a panic.
-/

namespace Cabinet

open Cpu Log

namespace Cpu

/-- The trace line of an instruction about to be executed. -/
def traceLine (cpu : Cpu) (opcode : UInt8) : String :=
  let instruction := (Instruction.ofOpcode opcode).listing
  s!"8080: {Hex.word cpu.pc}  {Hex.byte opcode}  {instruction}  A={Hex.byte cpu.a}" ++
    s!" F={Hex.byte cpu.flags} BC={Hex.word cpu.bc} DE={Hex.word cpu.de}" ++
    s!" HL={Hex.word cpu.hl} SP={Hex.word cpu.sp}"

@[inline] def traceNote (cpu : Cpu) (opcode : UInt8) : Note :=
  ⟨.cpu, .trace, fun _ => cpu.traceLine opcode⟩

/-- What is said about an opcode without a meaning. -/
def unknownNote (address : UInt16) (opcode : UInt8) : Note :=
  ⟨.cpu, .warn, fun _ =>
    s!"8080: unimplemented opcode 0x{Hex.byte opcode} at PC=0x{Hex.word address}" ++
      ", treated as NOP"⟩

/-- What is said when a vector is accepted. -/
def serviceNote (vector : UInt8) (address : UInt16) : Note :=
  ⟨.interrupts, .trace, fun _ =>
    s!"8080: service vector {vector.toNat} -> PC=0x{Hex.word address}"⟩

/-- What is said when a vector takes the place of one that still waits. -/
def droppedNote (previous vector : UInt8) : Note :=
  ⟨.interrupts, .debug, fun _ =>
    s!"8080: interrupt vector {previous.toNat} dropped, replaced by {vector.toNat}" ++
      " before service"⟩

/-- What is said when a vector is put on the interrupt line. -/
def raiseNote (cpu : Cpu) (vector : UInt8) : Note :=
  ⟨.interrupts, .trace, fun _ => s!"8080: raise vector {vector.toNat} (INTE={cpu.enabled})"⟩

end Cpu

namespace Machine

variable {β σ : Type} [Listener σ]

/-- Put a vector on the interrupt line, with what is said about it. -/
def raiseM (machine : Machine β) (vector : UInt8) : Telling σ (Machine β) := do
  match machine.cpu.pending with
  | some previous => tell (Cpu.droppedNote previous vector)
  | none => pure ()
  tell (machine.cpu.raiseNote vector)
  return machine.raise vector

/-- A step that was taken and its clock states. -/
structure Taken (β : Type) where
  cost : Nat
  machine : Machine β
  four_le : 4 ≤ cost

/-- Count the clock states of a step. -/
@[inline] def finish (machine : Machine β) (cost : Nat) (four_le : 4 ≤ cost) :
    Telling σ (Taken β) := do
  let cycles ← Checked.count machine.cpu.cycles (UInt64.ofNat cost)
  return ⟨cost, machine.mapCpu fun cpu => { cpu with cycles }, four_le⟩

variable [Bus β] [TellingBus β]

/-- Execute the opcode at the program counter. -/
@[inline] def performM (machine : Machine β) (opcode : UInt8) : Telling σ (Machine β) := do
  tell (machine.cpu.traceNote opcode)
  let start := machine.cpu.pc
  let instruction := Cpu.Instruction.ofOpcode opcode
  let moved := machine.jump (start + instruction.length)
  match instruction with
  | .output =>
      let bus ← TellingBus.outputM moved.bus (moved.read (start + 1)) moved.cpu.a
      return { moved with bus }
  | .input =>
      let (value, bus) ← TellingBus.inputM moved.bus (moved.read (start + 1))
      return { moved with cpu := { moved.cpu with a := value }, bus }
  | .unknown =>
      tell (Cpu.unknownNote start opcode)
      return moved
  | instruction => return moved.execute (start + 1) instruction

/-- Accept an interrupt, idle or execute one instruction. -/
@[inline] def stepM (machine : Machine β) : Telling σ (Taken β) := do
  match machine.cpu.serviceable with
  | some vector =>
      let machine := machine.service vector
      tell (Cpu.serviceNote vector machine.cpu.pc)
      machine.finish interruptCost (by decide)
  | none =>
      if machine.cpu.halted then machine.finish idleCost (by decide)
      else
        let opcode := machine.read machine.cpu.pc
        let instruction := Cpu.Instruction.ofOpcode opcode
        let cost := instruction.cost machine.cpu
        let next ← machine.performM opcode
        next.finish cost (instruction.four_le_cost machine.cpu)

/-- The first number that does not fit a counter of 32 bits. -/
@[noinline] def counterLimit : Nat := 4294967296

/--
Step until at least `budget` clock states are spent, starting from `spent`. The last
instruction is not cut short, so the sum may come out above the budget; it is
counted in 32 bits.
-/
@[specialize] def spendM (budget spent : Nat) (machine : Machine β) :
    Telling σ (Nat × Machine β) := do
  if spent < budget then
    let taken ← machine.stepM
    if spent + taken.cost < counterLimit then
      spendM budget (spent + taken.cost) taken.machine
    else throw .addition
  else return (spent, machine)
termination_by budget - spent
decreasing_by
  have := taken.four_le
  omega

end Machine

end Cabinet
