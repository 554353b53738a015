import Cabinet.Proofs.Cpu.Calculation
import Cabinet.Proofs.Machine.Sequencing

/-!
# Instructions that calculate

An opcode with bits 7 and 6 equal to 10 applies an operation to the accumulator
and an operand; one with bits 7, 6, 2, 1 and 0 equal to 11110 takes the operand
from the byte behind it. INR and DCR add one to a register or take one from it.
What they leave is given by a calculation in whole numbers, wherever the operand
lies and also when it is the accumulator itself. Nothing else changes.
-/

namespace Cabinet

namespace Cpu

open Opcode

/-- The register file with the register of a code set; code 6 is that of memory. -/
def withRegister (cpu : Cpu) (code : Fin 8) (value : UInt8) : Cpu :=
  match code with
  | 0 => { cpu with b := value }
  | 1 => { cpu with c := value }
  | 2 => { cpu with d := value }
  | 3 => { cpu with e := value }
  | 4 => { cpu with h := value }
  | 5 => { cpu with l := value }
  | 6 => cpu
  | 7 => { cpu with a := value }

/-- The flags and the program counter are not among these registers. -/
theorem withRegister_moved (cpu : Cpu) (flags : UInt8) (pc : UInt16) (code : Fin 8)
    (value : UInt8) :
    ({ cpu with flags, pc } : Cpu).withRegister code value =
      { cpu.withRegister code value with flags, pc } := by
  match code with
  | 0 | 1 | 2 | 3 | 4 | 5 | 6 | 7 => rfl

/-- The register file with the register of a code set, if there is a code. -/
def withTarget (cpu : Cpu) (target : Option (Fin 8)) (value : UInt8) : Cpu :=
  match target with
  | some code => cpu.withRegister code value
  | none => cpu

/--
Where an operation of the accumulator leaves its result. The comparison, which is the last of
the operations, drops it; the accumulator has the last of the codes.
-/
def resultTarget (operation : Fin 8) : Option (Fin 8) :=
  if operation = Fin.last 7 then none else some (Fin.last 7)

namespace Instruction

theorem ofOpcode_alu (opcode : UInt8) : (Pattern.anyBlock 0x80).fits opcode = true →
    ofOpcode opcode = .alu (.ofCode (upperField opcode)) (.ofCode (lowerField opcode)) := by
  rw [ofOpcode_eq_decode]
  revert opcode
  exact forall_opcode (by decide +kernel)

theorem ofOpcode_aluImm (opcode : UInt8) : (Pattern.anyField 0xC6).fits opcode = true →
    ofOpcode opcode = .aluImm (.ofCode (upperField opcode)) := by
  rw [ofOpcode_eq_decode]
  revert opcode
  exact forall_opcode (by decide +kernel)

theorem ofOpcode_inr (opcode : UInt8) : (Pattern.anyField 0x04).fits opcode = true →
    ofOpcode opcode = .inr (.ofCode (upperField opcode)) := by
  rw [ofOpcode_eq_decode]
  revert opcode
  exact forall_opcode (by decide +kernel)

theorem ofOpcode_dcr (opcode : UInt8) : (Pattern.anyField 0x05).fits opcode = true →
    ofOpcode opcode = .dcr (.ofCode (upperField opcode)) := by
  rw [ofOpcode_eq_decode]
  revert opcode
  exact forall_opcode (by decide +kernel)

end Instruction

end Cpu

namespace Machine

open Cpu

variable {β : Type} [Bus β]

/-- An operand by its code: B, C, D, E, H, L, the byte in memory at HL, and A. -/
def operand (machine : Machine β) (code : Fin 8) : UInt8 :=
  match code with
  | 0 => machine.cpu.b
  | 1 => machine.cpu.c
  | 2 => machine.cpu.d
  | 3 => machine.cpu.e
  | 4 => machine.cpu.h
  | 5 => machine.cpu.l
  | 6 => machine.read machine.cpu.hl
  | 7 => machine.cpu.a

theorem reg_ofCode (machine : Machine β) (code : Fin 8) :
    machine.reg (.ofCode code) = machine.operand code := by
  match code with
  | 0 | 1 | 2 | 3 | 4 | 5 | 6 | 7 => rfl

theorem reg_jump (machine : Machine β) (target : UInt16) (reg : Reg) :
    (machine.jump target).reg reg = machine.reg reg := by
  cases reg <;> rfl

/-- Going on to the next instruction leaves the operands where they are. -/
theorem reg_jump_ofCode (machine : Machine β) (target : UInt16) (code : Fin 8) :
    (machine.jump target).reg (.ofCode code) = machine.operand code := by
  rw [reg_jump, reg_ofCode]

/-- Only the operand in memory is stored on the bus. -/
theorem setReg_ofCode (machine : Machine β) (code : Fin 8) (value : UInt8) :
    machine.setReg (.ofCode code) value =
      ⟨machine.cpu.withRegister code value,
        if code = 6 then Bus.write machine.bus machine.cpu.hl value else machine.bus⟩ := by
  match code with
  | 0 | 1 | 2 | 3 | 4 | 5 | 6 | 7 => rfl

/--
A step that calculates: the flags describe the calculation, its result goes to
the target, the program counter moves behind the instruction and the clock states
are counted. The rest of the processor and of the bus is as it was.
-/
structure Calculated (machine : Machine β) (calculation : Calculation)
    (target : Option (Fin 8)) (length : UInt16) : Prop where
  flags : calculation.Describes machine.cpu machine.step.2.cpu
  cpu : machine.step.2.cpu =
    { machine.cpu.withTarget target (UInt8.ofNat calculation.result) with
      flags := machine.step.2.cpu.flags
      pc := machine.cpu.pc + length
      cycles := machine.cpu.cycles + UInt64.ofNat machine.step.1 }
  bus : machine.step.2.bus =
    if target = some 6 then
      Bus.write machine.bus machine.cpu.hl (UInt8.ofNat calculation.result)
    else machine.bus

/--
What the instructions that calculate do, by the opcode at the program counter. From 80 to BF
bits 5 to 3 choose the operation and bits 2 to 0 the operand. An operation with the byte
behind the opcode is in bits 5 to 3 too, and so are the operands of INR and DCR.
-/
structure Calculates (machine : Machine β) (opcode : UInt8) : Prop where
  operand : (Pattern.anyBlock 0x80).fits opcode = true →
    machine.Calculated
      (.ofCode (upperField opcode) machine.cpu.a.toNat
        (machine.operand (lowerField opcode)).toNat (machine.cpu.flag .carry).toNat)
      (resultTarget (upperField opcode)) 1
  immediate : (Pattern.anyField 0xC6).fits opcode = true →
    machine.Calculated
      (.ofCode (upperField opcode) machine.cpu.a.toNat
        (machine.read (machine.cpu.pc + 1)).toNat (machine.cpu.flag .carry).toNat)
      (resultTarget (upperField opcode)) 2
  increment : (Pattern.anyField 0x04).fits opcode = true →
    machine.Calculated
      (.increment (machine.operand (upperField opcode)).toNat (machine.cpu.flag .carry))
      (some (upperField opcode)) 1
  decrement : (Pattern.anyField 0x05).fits opcode = true →
    machine.Calculated
      (.decrement (machine.operand (upperField opcode)).toNat (machine.cpu.flag .carry))
      (some (upperField opcode)) 1

/-- The clock states are counted behind everything else. -/
theorem calculated_of_perform {machine : Machine β} {instruction : Instruction} {cost : Nat}
    {calculation : Calculation} {target : Option (Fin 8)} {length : UInt16}
    (step : machine.step = (cost, (machine.perform instruction).tick cost))
    (flags : calculation.Describes machine.cpu (machine.perform instruction).cpu)
    (cpu : (machine.perform instruction).cpu =
      { machine.cpu.withTarget target (UInt8.ofNat calculation.result) with
        flags := (machine.perform instruction).cpu.flags
        pc := machine.cpu.pc + length })
    (bus : (machine.perform instruction).bus =
      if target = some 6 then
        Bus.write machine.bus machine.cpu.hl (UInt8.ofNat calculation.result)
      else machine.bus) :
    machine.Calculated calculation target length where
  flags := by
    rw [step]
    exact flags.congr rfl rfl
  cpu := by
    rw [step]
    simp only [tick_cpu, cycles_perform]
    exact congrArg
      (fun after : Cpu => { after with cycles := machine.cpu.cycles + UInt64.ofNat cost }) cpu
  bus := by
    rw [step]
    exact bus

/-- An operation of the accumulator with a value that was found somewhere. -/
theorem calculated_alu {machine : Machine β} {instruction : Instruction} {cost : Nat}
    (step : machine.step = (cost, (machine.perform instruction).tick cost)) (code : Fin 8)
    (value : UInt8) (length : UInt16)
    (performed : machine.perform instruction =
      (machine.jump (machine.cpu.pc + length)).mapCpu fun cpu => cpu.alu (.ofCode code) value) :
    machine.Calculated
      (.ofCode code machine.cpu.a.toNat value.toNat (machine.cpu.flag .carry).toNat)
      (resultTarget code) length := by
  let moved := (machine.jump (machine.cpu.pc + length)).cpu
  have described := moved.describes_alu value code
  have accumulator := moved.toNat_a_alu value code
  have rest := moved.alu_eq (.ofCode code) value
  apply calculated_of_perform step
  · rw [performed]
    exact described.congr rfl rfl
  · rw [performed]
    -- A comparison keeps the accumulator; any other operation has its result there.
    by_cases compares : code = Fin.last 7
    · rw [if_pos compares, UInt8.toNat_inj] at accumulator
      rw [resultTarget, if_pos compares]
      rw [accumulator] at rest
      exact rest
    · rw [if_neg compares] at accumulator
      have result := congrArg UInt8.ofNat accumulator
      rw [UInt8.ofNat_toNat] at result
      rw [resultTarget, if_neg compares]
      rw [result] at rest
      exact rest
  · rw [performed, if_neg]
    · rfl
    · -- The operand in memory is never the target.
      rw [resultTarget]
      split <;> decide

/-- A new value for an operand that was found by its code, with the flags marked before. -/
theorem calculated_setReg {machine : Machine β} {instruction : Instruction} {cost : Nat}
    {calculation : Calculation} {code : Fin 8} {marked : Cpu} {value : UInt8}
    (step : machine.step = (cost, (machine.perform instruction).tick cost))
    (performed : machine.perform instruction =
      (⟨marked, machine.bus⟩ : Machine β).setReg (.ofCode code) value)
    (flags : calculation.Describes machine.cpu marked)
    (rest : marked = { machine.cpu with flags := marked.flags, pc := machine.cpu.pc + 1 })
    (result : value.toNat = calculation.result) :
    machine.Calculated calculation (some code) 1 := by
  rw [setReg_ofCode] at performed
  have result : value = UInt8.ofNat calculation.result := by
    rw [← result, UInt8.ofNat_toNat]
  have registers : marked.withRegister code value =
      { machine.cpu.withRegister code value with
        flags := marked.flags, pc := machine.cpu.pc + 1 } := by
    rw [rest, withRegister_moved]
  apply calculated_of_perform step
  · rw [performed, registers]
    exact flags.congr rfl rfl
  · rw [performed, registers, result]
    rfl
  · -- The byte is stored at the address that the operand was read from.
    have hl : marked.hl = machine.cpu.hl := by
      rw [rest]
      rfl
    simp only [performed, hl, result, Option.some_inj]

/-- An operation of the accumulator with an operand that is given by its code. -/
theorem calculated_operand {machine : Machine β} {cost : Nat} (operation code : Fin 8)
    (step : machine.step =
      (cost, (machine.perform (.alu (.ofCode operation) (.ofCode code))).tick cost)) :
    machine.Calculated
      (.ofCode operation machine.cpu.a.toNat (machine.operand code).toNat
        (machine.cpu.flag .carry).toNat)
      (resultTarget operation) 1 := by
  rw [← machine.reg_jump_ofCode (machine.cpu.pc + 1) code]
  exact calculated_alu step operation _ 1 rfl

theorem calculated_increment {machine : Machine β} {cost : Nat} (code : Fin 8)
    (step : machine.step = (cost, (machine.perform (.inr (.ofCode code))).tick cost)) :
    machine.Calculated (.increment (machine.operand code).toNat (machine.cpu.flag .carry))
      (some code) 1 := by
  rw [← machine.reg_jump_ofCode (machine.cpu.pc + 1) code]
  have described := (machine.jump (machine.cpu.pc + 1)).cpu.describes_incrementFlags
    ((machine.jump (machine.cpu.pc + 1)).reg (.ofCode code))
  exact calculated_setReg step rfl (described.congr rfl rfl) (incrementFlags_eq ..)
    (UInt8.toNat_add _ 1)

theorem calculated_decrement {machine : Machine β} {cost : Nat} (code : Fin 8)
    (step : machine.step = (cost, (machine.perform (.dcr (.ofCode code))).tick cost)) :
    machine.Calculated (.decrement (machine.operand code).toNat (machine.cpu.flag .carry))
      (some code) 1 := by
  rw [← machine.reg_jump_ofCode (machine.cpu.pc + 1) code]
  have described := (machine.jump (machine.cpu.pc + 1)).cpu.describes_decrementFlags
    ((machine.jump (machine.cpu.pc + 1)).reg (.ofCode code))
  exact calculated_setReg step rfl (described.congr rfl rfl) (decrementFlags_eq ..)
    (toNat_decrement _)

/--
Every operation of the accumulator, every INR and every DCR leaves what its
calculation in whole numbers says, for all operands and wherever they lie.
-/
theorem step_calculates {machine : Machine β} {opcode : UInt8}
    (fetched : machine.read machine.cpu.pc = opcode) (quiet : machine.cpu.serviceable = none)
    (running : machine.cpu.halted = false) : machine.Calculates opcode where
  operand := by
    intro fits
    exact calculated_operand _ _
      (step_of_decoded fetched quiet running (Instruction.ofOpcode_alu opcode fits))
  immediate := by
    intro fits
    have step := step_of_decoded fetched quiet running (Instruction.ofOpcode_aluImm opcode fits)
    exact calculated_alu step (upperField opcode) _ 2 rfl
  increment := by
    intro fits
    exact calculated_increment _
      (step_of_decoded fetched quiet running (Instruction.ofOpcode_inr opcode fits))
  decrement := by
    intro fits
    exact calculated_decrement _
      (step_of_decoded fetched quiet running (Instruction.ofOpcode_dcr opcode fits))

/-- SBB M at the last address, with its own opcode as the operand. -/
theorem step_calculates_itself :
    let memory := Memory.zero.load 0xFFFF [0x9E]
    let machine : Machine Memory :=
      ⟨{ a := 0x10, h := 0xFF, l := 0xFF, pc := 0xFFFF, flags := 0x01 }, memory⟩
    machine.Calculates 0x9E ∧ machine.step.2.cpu.a = 0x71 := by
  intro memory machine
  have fetched : machine.read 0xFFFF = 0x9E := by
    rw [machine.read_eq]
    exact Memory.read_write_same _ _ _
  have calculates : machine.Calculates 0x9E := step_calculates fetched rfl rfl
  refine ⟨calculates, ?_⟩
  have hl : machine.cpu.hl = 0xFFFF := by
    decide
  have operand : machine.operand 6 = 0x9E := (congrArg machine.read hl).trans fetched
  have code : lowerField 0x9E = 6 := by
    decide
  have calculated := calculates.operand (by decide)
  rw [code, operand] at calculated
  exact (congrArg Cpu.a calculated.cpu).trans (by decide)

end Machine

end Cabinet
