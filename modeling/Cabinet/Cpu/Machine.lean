import Cabinet.Cpu.Arithmetic
import Cabinet.Cpu.Bus
import Cabinet.Cpu.Timing

/-!
# The running machine

A processor and its bus. One step accepts a waiting interrupt, or idles while
halted, or executes one instruction; it reports the clock states it took.
Addresses are 16-bit words, so the program counter and the stack pointer wrap.
-/

namespace Cabinet

/-- A processor with the bus it drives. -/
structure Machine (β : Type) where
  cpu : Cpu
  bus : β

namespace Machine

open Cpu

variable {β : Type}

/-- Change the processor only. -/
@[inline] def mapCpu (machine : Machine β) (change : Cpu → Cpu) : Machine β :=
  { machine with cpu := change machine.cpu }

/-- Power-on state of the processor; the bus is left as it is. -/
def reset (machine : Machine β) : Machine β :=
  { machine with cpu := machine.cpu.reset }

/-- Put a vector on the interrupt line. -/
def raise (machine : Machine β) (vector : UInt8) : Machine β :=
  machine.mapCpu fun cpu => cpu.raise vector

variable [Bus β]

@[inline] def read (machine : Machine β) (address : UInt16) : UInt8 :=
  Bus.read machine.bus address

/-- The little-endian word whose low byte is at `address`. -/
@[inline] def readWord (machine : Machine β) (address : UInt16) : UInt16 :=
  joinBytes (machine.read (address + 1)) (machine.read address)

@[inline] def write (machine : Machine β) (address : UInt16) (value : UInt8) : Machine β :=
  { machine with bus := Bus.write machine.bus address value }

/-- Put a word on the stack, its high byte at the higher address. -/
def push (machine : Machine β) (value : UInt16) : Machine β :=
  let sp := machine.cpu.sp
  (machine.write (sp - 1) (highByte value)).write (sp - 2) (lowByte value)
    |>.mapCpu fun cpu => { cpu with sp := sp - 2 }

/-- Take a word from the stack. -/
def pop (machine : Machine β) : UInt16 × Machine β :=
  let sp := machine.cpu.sp
  (machine.readWord sp, machine.mapCpu fun cpu => { cpu with sp := sp + 2 })

/-- The value of an eight-bit operand. -/
def reg (machine : Machine β) : Reg → UInt8
  | .b => machine.cpu.b
  | .c => machine.cpu.c
  | .d => machine.cpu.d
  | .e => machine.cpu.e
  | .h => machine.cpu.h
  | .l => machine.cpu.l
  | .m => machine.read machine.cpu.hl
  | .a => machine.cpu.a

/-- Store into an eight-bit operand. -/
def setReg (machine : Machine β) (reg : Reg) (value : UInt8) : Machine β :=
  match reg with
  | .b => machine.mapCpu fun cpu => { cpu with b := value }
  | .c => machine.mapCpu fun cpu => { cpu with c := value }
  | .d => machine.mapCpu fun cpu => { cpu with d := value }
  | .e => machine.mapCpu fun cpu => { cpu with e := value }
  | .h => machine.mapCpu fun cpu => { cpu with h := value }
  | .l => machine.mapCpu fun cpu => { cpu with l := value }
  | .m => machine.write machine.cpu.hl value
  | .a => machine.mapCpu fun cpu => { cpu with a := value }

/-- Continue at another address. -/
def jump (machine : Machine β) (target : UInt16) : Machine β :=
  machine.mapCpu fun cpu => { cpu with pc := target }

/-- Continue at another address with the current one on the stack. -/
def call (machine : Machine β) (target : UInt16) : Machine β :=
  (machine.push machine.cpu.pc).jump target

/-- Continue at the address on top of the stack. -/
def ret (machine : Machine β) : Machine β :=
  let (target, machine) := machine.pop
  machine.jump target

/-- Exchange HL with the word on top of the stack. -/
def exchangeTop (machine : Machine β) : Machine β :=
  let sp := machine.cpu.sp
  let top := machine.readWord sp
  (machine.write sp machine.cpu.l).write (sp + 1) machine.cpu.h
    |>.mapCpu fun cpu => cpu.setHl top

/--
The effect of an instruction whose first operand byte is at `operand`. The
program counter already stands behind the instruction.
-/
def execute (machine : Machine β) (operand : UInt16) : Instruction → Machine β
  | .nop | .unknown => machine
  | .lxi pair =>
      let value := machine.readWord operand
      machine.mapCpu fun cpu => cpu.setPair pair value
  | .stax pair => machine.write (machine.cpu.pair pair) machine.cpu.a
  | .ldax pair =>
      let value := machine.read (machine.cpu.pair pair)
      machine.mapCpu fun cpu => { cpu with a := value }
  | .inx pair => machine.mapCpu fun cpu => cpu.setPair pair (cpu.pair pair + 1)
  | .dcx pair => machine.mapCpu fun cpu => cpu.setPair pair (cpu.pair pair - 1)
  | .dad pair => machine.mapCpu fun cpu => cpu.addToHl (cpu.pair pair)
  | .inr reg =>
      let value := machine.reg reg
      (machine.mapCpu fun cpu => cpu.incrementFlags value).setReg reg (value + 1)
  | .dcr reg =>
      let value := machine.reg reg
      (machine.mapCpu fun cpu => cpu.decrementFlags value).setReg reg (value - 1)
  | .mvi reg => machine.setReg reg (machine.read operand)
  | .mov target source => machine.setReg target (machine.reg source)
  | .alu op source =>
      let value := machine.reg source
      machine.mapCpu fun cpu => cpu.alu op value
  | .aluImm op =>
      let value := machine.read operand
      machine.mapCpu fun cpu => cpu.alu op value
  | .rlc => machine.mapCpu rotateLeft
  | .rrc => machine.mapCpu rotateRight
  | .ral => machine.mapCpu rotateLeftThroughCarry
  | .rar => machine.mapCpu rotateRightThroughCarry
  | .daa => machine.mapCpu decimalAdjust
  | .cma => machine.mapCpu fun cpu => { cpu with a := ~~~cpu.a }
  | .stc => machine.mapCpu fun cpu => cpu.setFlag .carry true
  | .cmc => machine.mapCpu fun cpu => cpu.setFlag .carry (!cpu.flag .carry)
  | .shld =>
      let address := machine.readWord operand
      (machine.write address machine.cpu.l).write (address + 1) machine.cpu.h
  | .lhld =>
      let value := machine.readWord (machine.readWord operand)
      machine.mapCpu fun cpu => cpu.setHl value
  | .sta => machine.write (machine.readWord operand) machine.cpu.a
  | .lda =>
      let value := machine.read (machine.readWord operand)
      machine.mapCpu fun cpu => { cpu with a := value }
  | .hlt => machine.mapCpu fun cpu => { cpu with halted := true }
  | .jmp => machine.jump (machine.readWord operand)
  | .jcc cond =>
      if machine.cpu.holds cond then machine.jump (machine.readWord operand) else machine
  | .call => machine.call (machine.readWord operand)
  | .ccc cond =>
      if machine.cpu.holds cond then machine.call (machine.readWord operand) else machine
  | .ret => machine.ret
  | .rcc cond => if machine.cpu.holds cond then machine.ret else machine
  | .rst number => machine.call (UInt16.ofNat (8 * number.val))
  | .push pair => machine.push (machine.cpu.stackPair pair)
  | .pop pair =>
      let (value, machine) := machine.pop
      machine.mapCpu fun cpu => cpu.setStackPair pair value
  | .output =>
      { machine with
        bus := Bus.output machine.bus (Bus.read machine.bus operand) machine.cpu.a }
  | .input =>
      let (value, bus) := Bus.input machine.bus (Bus.read machine.bus operand)
      { machine with cpu := { machine.cpu with a := value }, bus }
  | .xthl => machine.exchangeTop
  | .xchg => machine.mapCpu fun cpu => (cpu.setDe cpu.hl).setHl cpu.de
  | .pchl => machine.mapCpu fun cpu => { cpu with pc := cpu.hl }
  | .sphl => machine.mapCpu fun cpu => { cpu with sp := cpu.hl }
  | .ei => machine.mapCpu fun cpu => { cpu with enabled := true }
  | .di => machine.mapCpu fun cpu => { cpu with enabled := false }

/-- The instruction at the program counter. -/
def current (machine : Machine β) : Instruction :=
  .ofOpcode (machine.read machine.cpu.pc)

/-- The address where a vector's handler starts. -/
def handlerAddress (vector : UInt8) : UInt16 :=
  vector.toUInt16 * 8

/-- Accept the waiting vector: leave the halt, refuse further interrupts, call the handler. -/
def service (machine : Machine β) (vector : UInt8) : Machine β :=
  (machine.mapCpu fun cpu => { cpu with pending := none, enabled := false, halted := false }).call
    (handlerAddress vector)

/-- Execute the instruction at the program counter. -/
def perform (machine : Machine β) (instruction : Instruction) : Machine β :=
  let start := machine.cpu.pc
  (machine.jump (start + instruction.length)).execute (start + 1) instruction

/-- Count clock states. -/
def tick (machine : Machine β) (cost : Nat) : Machine β :=
  machine.mapCpu fun cpu => { cpu with cycles := cpu.cycles + UInt64.ofNat cost }

/-- Accept an interrupt, idle or execute one instruction, with the clock states taken. -/
@[specialize] def step (machine : Machine β) : Nat × Machine β :=
  match machine.cpu.serviceable with
  | some vector => (interruptCost, (machine.service vector).tick interruptCost)
  | none =>
      if machine.cpu.halted then (idleCost, machine.tick idleCost)
      else
        let instruction := machine.current
        let cost := instruction.cost machine.cpu
        (cost, (machine.perform instruction).tick cost)

/-- Every step takes time. -/
theorem four_le_step_cost (machine : Machine β) : 4 ≤ machine.step.1 := by
  unfold step
  split
  · simp [interruptCost]
  · split
    · simp [idleCost]
    · dsimp only
      exact machine.current.four_le_cost machine.cpu

end Machine

end Cabinet
