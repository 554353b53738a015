import Cabinet.Cpu.Machine

/-!
# Control state

The flip-flop that accepts interrupts, the halt latch, the interrupt line and
the cycle count decide what the next step is. Operations on registers and flags
leave all four alone, and the bits of the flag byte that have no meaning as
well. So does every instruction but four, of which one clears these bits.
-/

namespace Cabinet

/-- Bytes that agree outside a mask agree on bits that the mask leaves out. -/
theorem and_eq_of_outside {first second mask bits : UInt8}
    (outside : first &&& ~~~mask = second &&& ~~~mask) (apart : ~~~mask &&& bits = bits) :
    first &&& bits = second &&& bits := by
  rw [← apart, ← UInt8.and_assoc, ← UInt8.and_assoc, outside]

namespace Cpu

/--
The part of the processor that operations on registers and flags leave alone, the bits of
the flag byte without a meaning among it.
-/
structure Control where
  enabled : Bool
  halted : Bool
  pending : Option UInt8
  cycles : UInt64
  stray : UInt8
deriving DecidableEq

def stray (cpu : Cpu) : UInt8 :=
  cpu.flags &&& ~~~flagBits

def control (cpu : Cpu) : Control :=
  ⟨cpu.enabled, cpu.halted, cpu.pending, cpu.cycles, cpu.stray⟩

/-- What an instruction does to the control state. -/
def Instruction.steer (control : Control) : Instruction → Control
  | .ei => { control with enabled := true }
  | .di => { control with enabled := false }
  | .hlt => { control with halted := true }
  | .pop .psw => { control with stray := 0 }
  | _ => control

/-- Whether a vector is accepted depends on the control state only. -/
theorem serviceable_of_control {first second : Cpu} (same : first.control = second.control) :
    first.serviceable = second.serviceable := by
  have enabled : first.enabled = second.enabled := congrArg Control.enabled same
  have pending : first.pending = second.pending := congrArg Control.pending same
  rw [serviceable, serviceable, enabled, pending]

theorem Instruction.pending_steer (instruction : Instruction) (control : Control) :
    (instruction.steer control).pending = control.pending := by
  unfold steer
  split <;> rfl

theorem Instruction.cycles_steer (instruction : Instruction) (control : Control) :
    (instruction.steer control).cycles = control.cycles := by
  unfold steer
  split <;> rfl

theorem Instruction.stray_steer (instruction : Instruction) {control : Control}
    (clear : control.stray = 0) : (instruction.steer control).stray = 0 := by
  unfold steer
  split
  · exact clear
  · exact clear
  · exact clear
  · rfl
  · exact clear

/-! ## The flag byte -/

theorem and_flagBits_and_not (value : UInt8) : value &&& flagBits &&& ~~~flagBits = 0 := by
  have apart : flagBits &&& ~~~flagBits = 0 := by
    decide
  rw [UInt8.and_assoc, apart, UInt8.and_zero]

theorem stray_powerOn : ({} : Cpu).stray = 0 := by
  decide

theorem stray_restored (cpu : Cpu) : cpu.restored.stray = 0 :=
  and_flagBits_and_not cpu.flags

/-- A processor without stray bits is taken back as it is. -/
theorem restored_of_clear {cpu : Cpu} (clear : cpu.stray = 0) : cpu.restored = cpu := by
  have parts : cpu.flags &&& (flagBits ||| ~~~flagBits) =
      cpu.flags &&& flagBits ||| cpu.flags &&& ~~~flagBits :=
    UInt8.toBitVec_inj.mp BitVec.and_or_distrib_left
  have all : flagBits ||| ~~~flagBits = -1 := by
    decide
  rw [all, UInt8.and_neg_one, show cpu.flags &&& ~~~flagBits = 0 from clear, UInt8.or_zero] at parts
  rw [restored, ← parts]

/-! ## Registers and flags -/

/-- Setting or clearing a flag leaves the bits outside a mask alone that covers the flag. -/
theorem outside_setFlag (cpu : Cpu) (flag : Flag) (on : Bool) {mask : UInt8}
    (covered : ~~~flag.mask &&& ~~~mask = ~~~mask) :
    (cpu.setFlag flag on).flags &&& ~~~mask = cpu.flags &&& ~~~mask := by
  cases on with
  | true =>
      have apart : flag.mask &&& ~~~mask = 0 := by
        rw [← covered, ← UInt8.and_assoc, UInt8.and_not_self, UInt8.zero_and]
      change (cpu.flags ||| flag.mask) &&& ~~~mask = _
      rw [show (cpu.flags ||| flag.mask) &&& ~~~mask =
          cpu.flags &&& ~~~mask ||| flag.mask &&& ~~~mask from
        UInt8.toBitVec_inj.mp BitVec.and_or_distrib_right, apart, UInt8.or_zero]
  | false =>
      change (cpu.flags &&& ~~~flag.mask) &&& ~~~mask = _
      rw [UInt8.and_assoc, covered]

theorem stray_setFlag (cpu : Cpu) (flag : Flag) (on : Bool) :
    (cpu.setFlag flag on).stray = cpu.stray :=
  cpu.outside_setFlag flag on (by cases flag <;> decide)

theorem control_setFlag (cpu : Cpu) (flag : Flag) (on : Bool) :
    (cpu.setFlag flag on).control = cpu.control := by
  rw [control, stray_setFlag]
  rfl

theorem control_setResultFlags (cpu : Cpu) (result : UInt8) :
    (cpu.setResultFlags result).control = cpu.control := by
  simp only [setResultFlags, control_setFlag]

theorem control_setPair (cpu : Cpu) (pair : Pair) (value : UInt16) :
    (cpu.setPair pair value).control = cpu.control := by
  cases pair <;> rfl

/-- The flag byte that comes from the stack has no bits without meaning. -/
theorem stray_setPsw (cpu : Cpu) (value : UInt16) : (cpu.setPsw value).stray = 0 :=
  and_flagBits_and_not (lowByte value)

theorem control_setStackPair (cpu : Cpu) (pair : StackPair) (value : UInt16) :
    (cpu.setStackPair pair value).control = (Instruction.pop pair).steer cpu.control := by
  cases pair with
  | bc | de | hl => rfl
  | psw =>
      rw [control, setStackPair, stray_setPsw]
      rfl

theorem control_addWith (cpu : Cpu) (operand : UInt8) (carry : Bool) :
    (cpu.addWith operand carry).control = cpu.control := by
  simp only [addWith, control_setResultFlags, control_setFlag]
  rfl

theorem control_compareWith (cpu : Cpu) (operand : UInt8) (borrow : Bool) :
    (cpu.compareWith operand borrow).control = cpu.control := by
  simp only [compareWith, control_setResultFlags, control_setFlag]

theorem control_subtractWith (cpu : Cpu) (operand : UInt8) (borrow : Bool) :
    (cpu.subtractWith operand borrow).control = cpu.control := by
  rw [← control_compareWith cpu operand borrow]
  rfl

theorem control_logic (cpu : Cpu) (result : UInt8) (auxCarry : Bool) :
    (cpu.logic result auxCarry).control = cpu.control := by
  simp only [logic, control_setResultFlags, control_setFlag]
  rfl

theorem control_alu (cpu : Cpu) (op : AluOp) (operand : UInt8) :
    (cpu.alu op operand).control = cpu.control := by
  cases op with
  | add | adc => exact control_addWith ..
  | sub | sbb => exact control_subtractWith ..
  | ana | xra | ora => exact control_logic ..
  | cmp => exact control_compareWith ..

theorem control_incrementFlags (cpu : Cpu) (value : UInt8) :
    (cpu.incrementFlags value).control = cpu.control := by
  simp only [incrementFlags, control_setResultFlags, control_setFlag]

theorem control_decrementFlags (cpu : Cpu) (value : UInt8) :
    (cpu.decrementFlags value).control = cpu.control := by
  simp only [decrementFlags, control_setResultFlags, control_setFlag]

theorem control_decimalAdjust (cpu : Cpu) : cpu.decimalAdjust.control = cpu.control := by
  simp only [decimalAdjust, control_setFlag, control_addWith]

end Cpu

namespace Machine

open Cpu

variable {β : Type}

theorem bus_mapCpu (machine : Machine β) (change : Cpu → Cpu) :
    (machine.mapCpu change).bus = machine.bus := rfl

@[simp] theorem raise_cpu (machine : Machine β) (vector : UInt8) :
    (machine.raise vector).cpu = machine.cpu.raise vector := rfl

@[simp] theorem tick_cpu (machine : Machine β) (cost : Nat) :
    (machine.tick cost).cpu =
      { machine.cpu with cycles := machine.cpu.cycles + UInt64.ofNat cost } := rfl

@[simp] theorem tick_bus (machine : Machine β) (cost : Nat) :
    (machine.tick cost).bus = machine.bus := rfl

/-- Of vectors that are raised in a row the last one waits, and nothing else changes. -/
theorem foldl_raise (machine : Machine β) (vectors : List UInt8) :
    vectors.foldl raise machine =
      machine.mapCpu fun cpu => { cpu with pending := vectors.getLast?.or cpu.pending } := by
  induction vectors generalizing machine with
  | nil => rfl
  | cons vector vectors ih =>
      rw [List.foldl_cons, ih, List.getLast?_cons]
      cases vectors.getLast? with
      | none => rfl
      | some last => rfl

theorem stray_tick (machine : Machine β) (cost : Nat) :
    (machine.tick cost).cpu.stray = machine.cpu.stray := rfl

variable [Bus β]

theorem control_setReg (machine : Machine β) (reg : Reg) (value : UInt8) :
    (machine.setReg reg value).cpu.control = machine.cpu.control := by
  cases reg <;> rfl

/-! ## Instructions -/

/-- Every instruction but four leaves the control state alone. -/
theorem control_execute (machine : Machine β) (operand : UInt16) (instruction : Instruction) :
    (machine.execute operand instruction).cpu.control =
      instruction.steer machine.cpu.control := by
  cases instruction with
  | jcc cond | ccc cond | rcc cond =>
      simp only [execute]
      split <;> rfl
  | lxi pair | inx pair | dcx pair => exact control_setPair _ pair _
  | pop pair => exact control_setStackPair _ pair _
  | mvi reg | mov reg => exact control_setReg _ reg _
  | inr reg =>
      exact (control_setReg _ reg _).trans (control_incrementFlags machine.cpu _)
  | dcr reg =>
      exact (control_setReg _ reg _).trans (control_decrementFlags machine.cpu _)
  | daa => exact control_decimalAdjust machine.cpu
  | dad pair => exact control_setFlag _ .carry _
  | rlc | rrc | ral | rar | stc | cmc => exact control_setFlag _ .carry _
  | alu op | aluImm op => exact control_alu _ op _
  | _ => rfl

/-- The same for an instruction with its operand fetch. -/
theorem control_perform (machine : Machine β) (instruction : Instruction) :
    (machine.perform instruction).cpu.control = instruction.steer machine.cpu.control :=
  control_execute _ _ instruction

theorem pending_perform (machine : Machine β) (instruction : Instruction) :
    (machine.perform instruction).cpu.pending = machine.cpu.pending :=
  (congrArg Control.pending (machine.control_perform instruction)).trans
    (instruction.pending_steer _)

theorem cycles_perform (machine : Machine β) (instruction : Instruction) :
    (machine.perform instruction).cpu.cycles = machine.cpu.cycles :=
  (congrArg Control.cycles (machine.control_perform instruction)).trans
    (instruction.cycles_steer _)

theorem stray_perform {machine : Machine β} (instruction : Instruction)
    (clear : machine.cpu.stray = 0) : (machine.perform instruction).cpu.stray = 0 :=
  (congrArg Control.stray (machine.control_perform instruction)).trans
    (instruction.stray_steer clear)

/-! ## Steps -/

/-- A step accepts the vector that waits. -/
theorem step_of_serviceable {machine : Machine β} {vector : UInt8}
    (waits : machine.cpu.serviceable = some vector) :
    machine.step = (interruptCost, (machine.service vector).tick interruptCost) := by
  simp only [step, waits]

/-- A halted machine with no vector to accept idles. -/
theorem step_of_halted {machine : Machine β} (quiet : machine.cpu.serviceable = none)
    (halted : machine.cpu.halted = true) :
    machine.step = (idleCost, machine.tick idleCost) := by
  simp only [step, quiet, halted, ↓reduceIte]

/-- Any other machine executes the instruction at its program counter. -/
theorem step_of_running {machine : Machine β} (quiet : machine.cpu.serviceable = none)
    (running : machine.cpu.halted = false) :
    machine.step =
      (machine.current.cost machine.cpu,
        (machine.perform machine.current).tick (machine.current.cost machine.cpu)) := by
  simp only [step, quiet, running, Bool.false_eq_true, ↓reduceIte]

/-- A step executes the instruction that the opcode at the program counter stands for. -/
theorem step_of_decoded {machine : Machine β} {opcode : UInt8} {instruction : Instruction}
    (fetched : machine.read machine.cpu.pc = opcode) (quiet : machine.cpu.serviceable = none)
    (running : machine.cpu.halted = false) (decoded : Instruction.ofOpcode opcode = instruction) :
    machine.step =
      (instruction.cost machine.cpu,
        (machine.perform instruction).tick (instruction.cost machine.cpu)) := by
  have current : machine.current = instruction := by
    rw [current, fetched, decoded]
  rw [step_of_running quiet running, current]

/-- The three things that a step can do. -/
theorem step_cases (machine : Machine β) :
    (∃ vector, machine.cpu.serviceable = some vector ∧
      machine.step = (interruptCost, (machine.service vector).tick interruptCost)) ∨
    (machine.cpu.serviceable = none ∧ machine.cpu.halted = true ∧
      machine.step = (idleCost, machine.tick idleCost)) ∨
    (machine.cpu.serviceable = none ∧ machine.cpu.halted = false ∧
      machine.step =
        (machine.current.cost machine.cpu,
          (machine.perform machine.current).tick (machine.current.cost machine.cpu))) := by
  cases quiet : machine.cpu.serviceable with
  | some vector => exact Or.inl ⟨vector, rfl, step_of_serviceable quiet⟩
  | none =>
      cases halted : machine.cpu.halted with
      | true => exact Or.inr (Or.inl ⟨rfl, rfl, step_of_halted quiet halted⟩)
      | false => exact Or.inr (Or.inr ⟨rfl, rfl, step_of_running quiet halted⟩)

/-- The cycle count grows by the cost that a step reports. -/
theorem cycles_step (machine : Machine β) :
    machine.step.2.cpu.cycles = machine.cpu.cycles + UInt64.ofNat machine.step.1 := by
  rcases machine.step_cases with ⟨vector, -, taken⟩ | ⟨-, -, taken⟩ | ⟨-, -, taken⟩
  · rw [taken]
    rfl
  · rw [taken]
    rfl
  · rw [taken]
    simp only [tick_cpu, cycles_perform]

/-- No step sets a bit of the flag byte that has no meaning. -/
theorem stray_step {machine : Machine β} (clear : machine.cpu.stray = 0) :
    machine.step.2.cpu.stray = 0 := by
  rcases machine.step_cases with ⟨vector, -, taken⟩ | ⟨-, -, taken⟩ | ⟨-, -, taken⟩
  · rw [taken]
    exact clear
  · rw [taken]
    exact clear
  · rw [taken]
    dsimp only
    rw [stray_tick]
    exact stray_perform machine.current clear

end Machine

end Cabinet
