import Cabinet.Proofs.Machine.FlagDiscipline
import Cabinet.Proofs.Machine.InterruptLine

/-!
# Sending

A byte goes to an output port in one way only: a step executes OUT. A part of the
bus that neither memory accesses nor input can change is therefore left alone by
every other step, whether it executes an instruction, idles or accepts a vector.
-/

namespace Cabinet

namespace Cpu

/-- OUT. -/
def Opcode.output : UInt8 := 0xD3

/-- IN. -/
def Opcode.input : UInt8 := 0xDB

namespace Instruction

theorem ofOpcode_input : ofOpcode Opcode.input = .input :=
  ofOpcode_of_decode rfl

/-- No other opcode is decoded as OUT. -/
theorem ofOpcode_eq_output_iff (opcode : UInt8) :
    ofOpcode opcode = .output ↔ opcode = Opcode.output := by
  rw [ofOpcode_eq_decode]
  revert opcode
  exact Opcode.forall_opcode (by decide +kernel)

end Instruction

end Cpu

namespace Machine

open Cpu

variable {β : Type} [Bus β]

/-- The port and the byte of the output instruction that the next step executes, if it is one. -/
def sends? (machine : Machine β) : Option (UInt8 × UInt8) :=
  if machine.executed? = some Opcode.output then
    some (machine.read (machine.cpu.pc + 1), machine.cpu.a)
  else none

theorem sends?_eq_none_iff {machine : Machine β} :
    machine.sends? = none ↔ machine.executed? ≠ some Opcode.output := by
  unfold sends?
  split
  · rename_i executed
    simp [executed]
  · rename_i other
    simp [other]

/-- What OUT does to the bus. -/
theorem bus_step_of_sends {machine : Machine β} {port value : UInt8}
    (sends : machine.sends? = some (port, value)) :
    machine.step.2.bus = Bus.output machine.bus port value := by
  unfold sends? at sends
  split at sends
  · rename_i executed
    cases sends
    rw [step_of_executed executed ((Instruction.ofOpcode_eq_output_iff _).mpr rfl)]
    rfl
  · cases sends

/-- A part of the bus that the processor can change by output only. -/
structure OnlyByOutput {α : Type} (part : β → α) : Prop where
  write : ∀ bus address value, part (Bus.write bus address value) = part bus
  input : ∀ bus port, part (Bus.input bus port).2 = part bus

namespace OnlyByOutput

variable {α : Type} {part : β → α} (only : OnlyByOutput part)

include only

theorem push (machine : Machine β) (word : UInt16) :
    part (machine.push word).bus = part machine.bus :=
  (only.write _ _ _).trans (only.write machine.bus _ _)

theorem setReg (machine : Machine β) (reg : Reg) (value : UInt8) :
    part (machine.setReg reg value).bus = part machine.bus := by
  cases reg with
  | m => exact only.write machine.bus _ value
  | b | c | d | e | h | l | a => rfl

/-- Every instruction but OUT leaves the part alone. -/
theorem execute (machine : Machine β) (operand : UInt16) {instruction : Instruction}
    (other : instruction ≠ .output) :
    part (machine.execute operand instruction).bus = part machine.bus := by
  cases instruction with
  | output => exact absurd rfl other
  | input => exact only.input machine.bus _
  | stax pair => exact only.write machine.bus _ _
  | sta => exact only.write machine.bus _ _
  | mvi reg | mov reg => exact only.setReg machine reg _
  | inr reg | dcr reg =>
      rw [Machine.execute, only.setReg, bus_mapCpu]
  | shld | xthl => exact (only.write _ _ _).trans (only.write machine.bus _ _)
  | push pair => exact only.push machine _
  | call | rst number => exact only.push machine _
  | ccc cond =>
      simp only [Machine.execute]
      split
      · exact only.push machine _
      · rfl
  | jcc cond | rcc cond =>
      simp only [Machine.execute]
      split <;> rfl
  | _ => rfl

/-- Every step that does not send leaves the part alone. -/
theorem step {machine : Machine β} (silent : machine.sends? = none) :
    part machine.step.2.bus = part machine.bus := by
  rcases machine.step_cases with
    ⟨vector, -, taken⟩ | ⟨-, -, taken⟩ | ⟨quiet, running, taken⟩
  · rw [taken]
    exact only.push _ machine.cpu.pc
  · rw [taken]
    rfl
  · have executed : machine.executed? = some (machine.read machine.cpu.pc) :=
      executed?_eq_some_iff.mpr ⟨⟨quiet, running⟩, rfl⟩
    have other : machine.current ≠ .output := by
      intro current
      rw [(Instruction.ofOpcode_eq_output_iff _).mp current] at executed
      exact sends?_eq_none_iff.mp silent executed
    -- What the instruction is does not matter any more.
    generalize machine.current = instruction at taken other
    rw [taken]
    exact only.execute (machine.jump _) _ other

end OnlyByOutput

/-- What IN does to the bus and to the accumulator. -/
theorem step_of_input {machine : Machine β} (executed : machine.executed? = some Opcode.input) :
    machine.step.2.bus = (Bus.input machine.bus (machine.read (machine.cpu.pc + 1))).2 ∧
      machine.step.2.cpu.a = (Bus.input machine.bus (machine.read (machine.cpu.pc + 1))).1 := by
  rw [step_of_executed executed Instruction.ofOpcode_input]
  exact ⟨rfl, rfl⟩

end Machine

end Cabinet
