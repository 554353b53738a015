import Cabinet.Proofs.Cpu.Opcode
import Cabinet.Proofs.Machine.Control
import Cabinet.Proofs.Machine.OverMemory

/-!
# The order of execution

An instruction is followed by the one behind it unless its opcode stands for a
transfer of control. Operands and return addresses are read before anything is
written, so the result depends on memory as it was before the step, wherever the
code, the operand and the stack lie.
-/

namespace Cabinet

namespace Cpu.Opcode.Transfer

/-- Whether the address behind the instruction goes to the stack when control is handed on. -/
def saves : Transfer → Bool
  | .call _ | .restart _ => true
  | _ => false

/-- Whether an address is taken from the stack when control is handed on. -/
def drops : Transfer → Bool
  | .ret _ => true
  | _ => false

theorem extraCost_of_not_taken {flags : UInt8} {transfer : Transfer}
    (notTaken : transfer.taken flags = false) : transfer.extraCost flags = 0 := by
  cases transfer with
  | onward | restart | indirect => rfl
  | jump condition => rfl
  | call condition | ret condition =>
      cases condition with
      | none => rfl
      | some condition =>
          have fails : met flags condition = false := notTaken
          rw [extraCost, fails]
          rfl

end Cpu.Opcode.Transfer

namespace Machine

open Cpu
open Cpu.Opcode (Transfer)

variable {β : Type} [Bus β]

/-! ## What the next step is to do -/

/-- The address behind an instruction at the program counter. -/
def behind (machine : Machine β) (opcode : UInt8) : UInt16 :=
  machine.cpu.pc + UInt16.ofNat (Opcode.length opcode)

/-- The address to which control is handed, for an operand at the given address. -/
def destination (machine : Machine β) (operand : UInt16) : Transfer → UInt16
  | .onward => machine.cpu.pc
  | .jump _ | .call _ => machine.readWord operand
  | .ret _ => machine.readWord machine.cpu.sp
  | .restart number => UInt16.ofNat (8 * number.val)
  | .indirect => machine.cpu.hl

/-- Whether an instruction at the program counter hands control on. -/
def takes (machine : Machine β) (opcode : UInt8) : Bool :=
  (Opcode.transfer opcode).taken machine.cpu.flags

/-- The address of the next instruction. -/
def successor (machine : Machine β) (opcode : UInt8) : UInt16 :=
  if machine.takes opcode then
    machine.destination (machine.cpu.pc + 1) (Opcode.transfer opcode)
  else machine.behind opcode

/-- The bus with a word stored below the stack pointer, its high byte at the higher address. -/
def stacked (machine : Machine β) (word : UInt16) : β :=
  Bus.write (Bus.write machine.bus (machine.cpu.sp - 1) (highByte word)) (machine.cpu.sp - 2)
    (lowByte word)

/-! ## Instructions -/

theorem pc_setPair (cpu : Cpu) (pair : Pair) (value : UInt16) :
    (cpu.setPair pair value).pc = cpu.pc := by
  cases pair <;> rfl

theorem pc_setStackPair (cpu : Cpu) (pair : StackPair) (value : UInt16) :
    (cpu.setStackPair pair value).pc = cpu.pc := by
  cases pair <;> rfl

theorem pc_alu (cpu : Cpu) (op : AluOp) (operand : UInt8) :
    (cpu.alu op operand).pc = cpu.pc := by
  cases op <;>
    simp only [alu, addWith, subtractWith, compareWith, logic, setResultFlags, setFlag]

theorem pc_incrementFlags (cpu : Cpu) (value : UInt8) :
    (cpu.incrementFlags value).pc = cpu.pc := by
  simp only [incrementFlags, setResultFlags, setFlag]

theorem pc_decrementFlags (cpu : Cpu) (value : UInt8) :
    (cpu.decrementFlags value).pc = cpu.pc := by
  simp only [decrementFlags, setResultFlags, setFlag]

theorem pc_setReg (machine : Machine β) (reg : Reg) (value : UInt8) :
    (machine.setReg reg value).cpu.pc = machine.cpu.pc := by
  cases reg <;> rfl

/-- Without a transfer of control the program counter stays behind the instruction. -/
theorem pc_execute_of_onward (machine : Machine β) (operand : UInt16) {instruction : Instruction}
    (onward : instruction.transfer = .onward) :
    (machine.execute operand instruction).cpu.pc = machine.cpu.pc := by
  cases instruction with
  | jmp | jcc cond | call | ccc cond | ret | rcc cond | rst number | pchl => cases onward
  | lxi pair | inx pair | dcx pair => exact pc_setPair _ pair _
  | pop pair => exact pc_setStackPair _ pair _
  | mvi reg | mov reg => exact pc_setReg _ reg _
  | inr reg => exact (pc_setReg _ reg _).trans (pc_incrementFlags machine.cpu _)
  | dcr reg => exact (pc_setReg _ reg _).trans (pc_decrementFlags machine.cpu _)
  | alu op | aluImm op => exact pc_alu _ op _
  | _ => rfl

/-- A transfer that is taken sets the program counter. -/
theorem pc_execute_of_taken (machine : Machine β) (operand : UInt16) {instruction : Instruction}
    (taken : instruction.transfer.taken machine.cpu.flags = true) :
    (machine.execute operand instruction).cpu.pc =
      machine.destination operand instruction.transfer := by
  cases instruction with
  | jcc cond | ccc cond | rcc cond =>
      have holds : machine.cpu.holds cond = true := (holds_eq_met _ cond).trans taken
      rw [execute, if_pos holds]
      rfl
  | jmp | call | ret | rst number | pchl => rfl
  | _ => cases taken

theorem saves_execute (machine : Machine β) (operand : UInt16) {instruction : Instruction}
    (saves : instruction.transfer.saves = true)
    (taken : instruction.transfer.taken machine.cpu.flags = true) :
    (machine.execute operand instruction).cpu.sp = machine.cpu.sp - 2 ∧
      (machine.execute operand instruction).bus = machine.stacked machine.cpu.pc := by
  cases instruction with
  | call | rst number => exact ⟨rfl, rfl⟩
  | ccc cond =>
      have holds : machine.cpu.holds cond = true := (holds_eq_met _ cond).trans taken
      rw [execute, if_pos holds]
      exact ⟨rfl, rfl⟩
  | _ => exact absurd saves Bool.false_ne_true

theorem drops_execute (machine : Machine β) (operand : UInt16) {instruction : Instruction}
    (drops : instruction.transfer.drops = true)
    (taken : instruction.transfer.taken machine.cpu.flags = true) :
    (machine.execute operand instruction).cpu.sp = machine.cpu.sp + 2 ∧
      (machine.execute operand instruction).bus = machine.bus := by
  cases instruction with
  | ret => exact ⟨rfl, rfl⟩
  | rcc cond =>
      have holds : machine.cpu.holds cond = true := (holds_eq_met _ cond).trans taken
      rw [execute, if_pos holds]
      exact ⟨rfl, rfl⟩
  | _ => exact absurd drops Bool.false_ne_true

/-- A condition that is not met leaves only the length of the instruction to be seen. -/
theorem execute_of_not_taken (machine : Machine β) (operand : UInt16) {instruction : Instruction}
    (transfer : instruction.transfer ≠ .onward)
    (notTaken : instruction.transfer.taken machine.cpu.flags = false) :
    machine.execute operand instruction = machine := by
  cases instruction with
  | jcc cond | ccc cond | rcc cond =>
      have fails : machine.cpu.holds cond = false := (holds_eq_met _ cond).trans notTaken
      rw [execute, fails]
      rfl
  | jmp | call | ret | rst number | pchl => exact absurd notTaken.symm Bool.false_ne_true
  | _ => exact absurd rfl transfer

theorem cost_eq (instruction : Instruction) (cpu : Cpu) :
    instruction.cost cpu = instruction.baseCost + instruction.transfer.extraCost cpu.flags := by
  cases instruction with
  | ccc cond | rcc cond =>
      simp only [Instruction.cost, Instruction.transfer, Transfer.extraCost, holds_eq_met]
      rfl
  | _ => rfl

/-! ## Steps -/

theorem destination_jump (machine : Machine β) (target operand : UInt16) {flags : UInt8}
    {transfer : Transfer} (taken : transfer.taken flags = true) :
    (machine.jump target).destination operand transfer = machine.destination operand transfer := by
  cases transfer with
  | onward => cases taken
  | jump | call | ret | restart | indirect => rfl

/-- A step moves behind the instruction before it executes it. -/
theorem step_of_fetched {machine : Machine β} {opcode : UInt8}
    (fetched : machine.read machine.cpu.pc = opcode)
    (quiet : machine.cpu.serviceable = none) (running : machine.cpu.halted = false) :
    machine.step =
      let cost := (Instruction.ofOpcode opcode).cost machine.cpu
      (cost, ((machine.jump (machine.behind opcode)).execute (machine.cpu.pc + 1)
        (.ofOpcode opcode)).tick cost) := by
  rw [step_of_decoded fetched quiet running rfl, perform, Instruction.length_ofOpcode]
  rfl

/--
What a step makes of the program counter, the stack and the clock. Calls and restarts leave
the address behind them on the stack, and returns take an address from it. A transfer that
is not taken has no effect but to be passed over.
-/
structure Sequenced (machine : Machine β) (opcode : UInt8) : Prop where
  pc : machine.step.2.cpu.pc = machine.successor opcode
  saves : (Opcode.transfer opcode).saves = true → machine.takes opcode = true →
    machine.step.2.cpu.sp = machine.cpu.sp - 2 ∧
      machine.step.2.bus = machine.stacked (machine.behind opcode)
  drops : (Opcode.transfer opcode).drops = true → machine.takes opcode = true →
    machine.step.2.cpu.sp = machine.cpu.sp + 2 ∧ machine.step.2.bus = machine.bus
  passes : Opcode.transfer opcode ≠ .onward → machine.takes opcode = false →
    machine.step.2 = (machine.jump (machine.behind opcode)).tick (Opcode.cost opcode)
  cost : machine.step.1 =
    Opcode.cost opcode + (Opcode.transfer opcode).extraCost machine.cpu.flags
  cycles : machine.step.2.cpu.cycles = machine.cpu.cycles + UInt64.ofNat machine.step.1

/-- Every instruction hands control on as its opcode says, whatever memory holds. -/
theorem step_sequenced {machine : Machine β} {opcode : UInt8}
    (fetched : machine.read machine.cpu.pc = opcode)
    (quiet : machine.cpu.serviceable = none) (running : machine.cpu.halted = false) :
    machine.Sequenced opcode := by
  have step := step_of_fetched fetched quiet running
  have transfer := Instruction.transfer_ofOpcode opcode
  have cost : (Instruction.ofOpcode opcode).cost machine.cpu =
      Opcode.cost opcode + (Opcode.transfer opcode).extraCost machine.cpu.flags := by
    rw [cost_eq, Instruction.baseCost_ofOpcode, transfer]
  -- From here on only the transfer and the cost of the instruction matter.
  generalize Instruction.ofOpcode opcode = instruction at step transfer cost
  let moved := machine.jump (machine.behind opcode)
  have executed (taken : machine.takes opcode = true) :
      instruction.transfer.taken moved.cpu.flags = true := by
    rw [transfer]
    exact taken
  constructor
  case pc =>
    simp only [step, tick_cpu, successor]
    split
    · rename_i taken
      have handed := pc_execute_of_taken moved (machine.cpu.pc + 1) (executed taken)
      rw [transfer, destination_jump _ _ _ taken] at handed
      exact handed
    · rename_i notTaken
      by_cases onward : Opcode.transfer opcode = .onward
      · exact pc_execute_of_onward moved (machine.cpu.pc + 1) (transfer.trans onward)
      · have passed := execute_of_not_taken moved (machine.cpu.pc + 1)
          (transfer ▸ onward)
          (transfer ▸ Bool.eq_false_iff.mpr notTaken)
        exact congrArg (fun machine : Machine β => machine.cpu.pc) passed
  case saves =>
    intro saves taken
    simp only [step, tick_cpu, tick_bus]
    exact saves_execute moved (machine.cpu.pc + 1) (transfer ▸ saves) (executed taken)
  case drops =>
    intro drops taken
    simp only [step, tick_cpu, tick_bus]
    exact drops_execute moved (machine.cpu.pc + 1) (transfer ▸ drops) (executed taken)
  case passes =>
    intro some notTaken
    have passed := execute_of_not_taken moved (machine.cpu.pc + 1) (transfer ▸ some)
      (transfer ▸ notTaken)
    simp only [step, cost, Transfer.extraCost_of_not_taken notTaken, Nat.add_zero]
    exact congrArg (fun machine : Machine β => machine.tick (Opcode.cost opcode)) passed
  case cost => rw [step, ← cost]
  case cycles => exact machine.cycles_step

/-- A conditional call whose operand is overwritten by the address that it leaves on the stack. -/
theorem step_sequenced_overlapping :
    let memory := Memory.zero.load 0xFFFE [0xDC, 0x34, 0x12]
    let machine : Machine Memory := ⟨{ pc := 0xFFFE, sp := 0x0001, flags := 0x01 }, memory⟩
    machine.Sequenced 0xDC ∧ machine.successor 0xDC = 0x1234 := by
  intro memory machine
  have holds (address : UInt16) : machine.read address = memory.read address :=
    machine.read_eq address
  have opcode : machine.read 0xFFFE = 0xDC := by
    rw [holds]
    simp [memory, Memory.load, Memory.read_write]
  have target : machine.readWord 0xFFFF = 0x1234 := by
    have low : machine.read 0xFFFF = 0x34 := by
      rw [holds]
      simp [memory, Memory.load, Memory.read_write]
    have high : machine.read 0x0000 = 0x12 := by
      rw [holds]
      simp [memory, Memory.load]
    have above : (0xFFFF : UInt16) + 1 = 0x0000 := by
      decide
    rw [readWord, above, high, low]
    decide
  refine ⟨step_sequenced opcode rfl rfl, ?_⟩
  rw [successor, if_pos (by decide)]
  exact target

end Machine

end Cabinet
