import Cabinet.Proofs.Machine.Spending

/-!
# Buses that cannot be told apart

The processor knows its bus only by what it reads. When two buses give the same
bytes, and go on to do so whatever is written to both, a processor behaves the
same on either of them for as long as it runs. Only one instruction takes a byte
from a port. So buses that agree on memory alone are told apart by nothing but
the bytes that this instruction finds.
-/

namespace Cabinet

/-- Related buses agree on memory, and writing or putting out leaves them related. -/
structure Bus.MemorySimulation {β γ : Type} [Bus β] [Bus γ] (Related : β → γ → Prop) :
    Prop where
  read : ∀ {first second}, Related first second → ∀ address,
    Bus.read first address = Bus.read second address
  write : ∀ {first second}, Related first second → ∀ address value,
    Related (Bus.write first address value) (Bus.write second address value)
  output : ∀ {first second}, Related first second → ∀ port value,
    Related (Bus.output first port value) (Bus.output second port value)

/-- Related buses give the same bytes, and every operation on both leaves them related. -/
structure Bus.Simulation {β γ : Type} [Bus β] [Bus γ] (Related : β → γ → Prop) : Prop
    extends Bus.MemorySimulation Related where
  input : ∀ {first second}, Related first second → ∀ port,
    (Bus.input first port).1 = (Bus.input second port).1 ∧
      Related (Bus.input first port).2 (Bus.input second port).2

namespace Machine

open Cpu

variable {β γ : Type}

/-- The same processor on related buses. -/
structure Alike (Related : β → γ → Prop) (first : Machine β) (second : Machine γ) : Prop where
  cpu : first.cpu = second.cpu
  bus : Related first.bus second.bus

namespace Alike

variable {Related : β → γ → Prop} {first : Machine β} {second : Machine γ}

theorem mapCpu (alike : Alike Related first second) (change : Cpu → Cpu) :
    Alike Related (first.mapCpu change) (second.mapCpu change) where
  cpu := congrArg change alike.cpu
  bus := alike.bus

/-- A change of the processor by something that is the same on both sides. -/
theorem mapCpuBy {α : Type} (alike : Alike Related first second) {here there : α}
    (same : here = there) (change : α → Cpu → Cpu) :
    Alike Related (first.mapCpu (change here)) (second.mapCpu (change there)) := by
  rw [same]
  exact alike.mapCpu _

theorem jump (alike : Alike Related first second) {here there : UInt16} (same : here = there) :
    Alike Related (first.jump here) (second.jump there) :=
  alike.mapCpuBy same fun target cpu => { cpu with pc := target }

theorem tick (alike : Alike Related first second) (cost : Nat) :
    Alike Related (first.tick cost) (second.tick cost) :=
  alike.mapCpu _

theorem raise (alike : Alike Related first second) (vector : UInt8) :
    Alike Related (first.raise vector) (second.raise vector) :=
  alike.mapCpu _

/-! ## Operations on the bus -/

variable [Bus β] [Bus γ]

section

variable (simulates : Bus.MemorySimulation Related)

include simulates

theorem read (alike : Alike Related first second) {here there : UInt16} (same : here = there) :
    first.read here = second.read there := by
  rw [same]
  exact simulates.read alike.bus there

theorem readWord (alike : Alike Related first second) {here there : UInt16}
    (same : here = there) : first.readWord here = second.readWord there := by
  rw [Machine.readWord, Machine.readWord, alike.read simulates (congrArg (· + 1) same),
    alike.read simulates same]

theorem write (alike : Alike Related first second) {here there : UInt16} {value other : UInt8}
    (same : here = there) (values : value = other) :
    Alike Related (first.write here value) (second.write there other) where
  cpu := alike.cpu
  bus := by
    rw [same, values]
    exact simulates.write alike.bus there other

theorem reg (alike : Alike Related first second) (reg : Reg) :
    first.reg reg = second.reg reg := by
  cases reg with
  | m => exact alike.read simulates (congrArg Cpu.hl alike.cpu)
  | b => exact congrArg Cpu.b alike.cpu
  | c => exact congrArg Cpu.c alike.cpu
  | d => exact congrArg Cpu.d alike.cpu
  | e => exact congrArg Cpu.e alike.cpu
  | h => exact congrArg Cpu.h alike.cpu
  | l => exact congrArg Cpu.l alike.cpu
  | a => exact congrArg Cpu.a alike.cpu

theorem setReg (alike : Alike Related first second) (reg : Reg) {value other : UInt8}
    (values : value = other) :
    Alike Related (first.setReg reg value) (second.setReg reg other) := by
  subst values
  cases reg with
  | m => exact alike.write simulates (congrArg Cpu.hl alike.cpu) rfl
  | b | c | d | e | h | l | a =>
      simp only [Machine.setReg]
      exact alike.mapCpu _

theorem push (alike : Alike Related first second) {value other : UInt16}
    (values : value = other) : Alike Related (first.push value) (second.push other) := by
  have sp := congrArg Cpu.sp alike.cpu
  have high := alike.write simulates (congrArg (· - 1) sp) (congrArg highByte values)
  have low := high.write simulates (congrArg (· - 2) sp) (congrArg lowByte values)
  exact low.mapCpuBy sp fun sp cpu => { cpu with sp := sp - 2 }

theorem call (alike : Alike Related first second) {here there : UInt16} (same : here = there) :
    Alike Related (first.call here) (second.call there) :=
  (alike.push simulates (congrArg Cpu.pc alike.cpu)).jump same

theorem pop (alike : Alike Related first second) :
    first.pop.1 = second.pop.1 ∧ Alike Related first.pop.2 second.pop.2 := by
  have sp := congrArg Cpu.sp alike.cpu
  exact ⟨alike.readWord simulates sp,
    alike.mapCpuBy sp fun sp cpu => { cpu with sp := sp + 2 }⟩

theorem ret (alike : Alike Related first second) : Alike Related first.ret second.ret := by
  obtain ⟨target, popped⟩ := alike.pop simulates
  exact popped.jump target

theorem exchangeTop (alike : Alike Related first second) :
    Alike Related first.exchangeTop second.exchangeTop := by
  have sp := congrArg Cpu.sp alike.cpu
  have top := alike.readWord simulates sp
  have low := alike.write simulates sp (congrArg Cpu.l alike.cpu)
  have high := low.write simulates (congrArg (· + 1) sp) (congrArg Cpu.h alike.cpu)
  exact high.mapCpuBy top fun top cpu => cpu.setHl top

theorem output (alike : Alike Related first second) {port other : UInt8} (ports : port = other) :
    Alike Related { first with bus := Bus.output first.bus port first.cpu.a }
      { second with bus := Bus.output second.bus other second.cpu.a } where
  cpu := alike.cpu
  bus := by
    rw [ports, alike.cpu]
    exact simulates.output alike.bus other second.cpu.a

/-! ## Steps -/

/-- Every instruction that takes no byte from a port does the same on both sides. -/
theorem execute (alike : Alike Related first second) {here there : UInt16}
    (same : here = there) (instruction : Instruction)
    (takes : instruction = .input →
      Alike Related (first.execute here .input) (second.execute there .input)) :
    Alike Related (first.execute here instruction) (second.execute there instruction) := by
  subst same
  -- Both sides fetch the same operand and then make the same change.
  have word := alike.readWord simulates (rfl : here = here)
  have byte := alike.read simulates (rfl : here = here)
  have accumulator := congrArg Cpu.a alike.cpu
  cases instruction with
  | nop | unknown => exact alike
  | lxi pair => exact alike.mapCpuBy word fun value cpu => cpu.setPair pair value
  | stax pair =>
      exact alike.write simulates (congrArg (fun cpu => cpu.pair pair) alike.cpu) accumulator
  | ldax pair =>
      have value := alike.read simulates (congrArg (fun cpu => cpu.pair pair) alike.cpu)
      exact alike.mapCpuBy value fun value cpu => { cpu with a := value }
  | inx pair | dcx pair | dad pair =>
      simp only [Machine.execute]
      exact alike.mapCpu _
  | inr reg =>
      have value := alike.reg simulates reg
      exact (alike.mapCpuBy value fun value cpu => cpu.incrementFlags value).setReg simulates reg
        (congrArg (· + 1) value)
  | dcr reg =>
      have value := alike.reg simulates reg
      exact (alike.mapCpuBy value fun value cpu => cpu.decrementFlags value).setReg simulates reg
        (congrArg (· - 1) value)
  | mvi reg => exact alike.setReg simulates reg byte
  | mov target source => exact alike.setReg simulates target (alike.reg simulates source)
  | alu op source =>
      exact alike.mapCpuBy (alike.reg simulates source) fun value cpu => cpu.alu op value
  | aluImm op => exact alike.mapCpuBy byte fun value cpu => cpu.alu op value
  | rlc | rrc | ral | rar | daa | cma | stc | cmc =>
      simp only [Machine.execute]
      exact alike.mapCpu _
  | shld =>
      have low := alike.write simulates word (congrArg Cpu.l alike.cpu)
      exact low.write simulates (congrArg (· + 1) word) (congrArg Cpu.h alike.cpu)
  | lhld =>
      exact alike.mapCpuBy (alike.readWord simulates word) fun value cpu => cpu.setHl value
  | sta => exact alike.write simulates word accumulator
  | lda =>
      exact alike.mapCpuBy (alike.read simulates word) fun value cpu => { cpu with a := value }
  | hlt | xchg | pchl | sphl | ei | di =>
      simp only [Machine.execute]
      exact alike.mapCpu _
  | jmp => exact alike.jump word
  | call => exact alike.call simulates word
  | ret => exact alike.ret simulates
  | jcc cond =>
      simp only [Machine.execute, alike.cpu]
      split
      · exact alike.jump word
      · exact alike
  | ccc cond =>
      simp only [Machine.execute, alike.cpu]
      split
      · exact alike.call simulates word
      · exact alike
  | rcc cond =>
      simp only [Machine.execute, alike.cpu]
      split
      · exact alike.ret simulates
      · exact alike
  | rst number => exact alike.call simulates rfl
  | push pair =>
      exact alike.push simulates (congrArg (fun cpu => cpu.stackPair pair) alike.cpu)
  | pop pair =>
      obtain ⟨value, popped⟩ := alike.pop simulates
      exact popped.mapCpuBy value fun value cpu => cpu.setStackPair pair value
  | output => exact alike.output simulates byte
  | input => exact takes rfl
  | xthl => exact alike.exchangeTop simulates

theorem service (alike : Alike Related first second) (vector : UInt8) :
    Alike Related (first.service vector) (second.service vector) :=
  (alike.mapCpu _).call simulates rfl

theorem current (alike : Alike Related first second) : first.current = second.current :=
  congrArg Instruction.ofOpcode (alike.read simulates (congrArg Cpu.pc alike.cpu))

theorem perform (alike : Alike Related first second) (instruction : Instruction)
    (takes : instruction = .input →
      Alike Related (first.perform .input) (second.perform .input)) :
    Alike Related (first.perform instruction) (second.perform instruction) := by
  have start := congrArg Cpu.pc alike.cpu
  refine (alike.jump (congrArg (· + instruction.length) start)).execute simulates
    (congrArg (· + 1) start) instruction ?_
  rintro rfl
  exact takes rfl

/-- A step takes the same time on both sides, even if they take different bytes from a port. -/
theorem step_cost (alike : Alike Related first second) : first.step.1 = second.step.1 := by
  rcases first.step_cases with
    ⟨vector, waits, taken⟩ | ⟨quiet, halted, taken⟩ | ⟨quiet, running, taken⟩
  · rw [alike.cpu] at waits
    rw [taken, step_of_serviceable waits]
  · rw [alike.cpu] at quiet halted
    rw [taken, step_of_halted quiet halted]
  · rw [alike.cpu] at quiet running
    rw [taken, step_of_running quiet running, alike.current simulates, alike.cpu]

/-- A step does the same on both sides, provided that one which takes a byte from a port does. -/
theorem step_of_takes (alike : Alike Related first second)
    (takes : first.cpu.serviceable = none → first.cpu.halted = false →
      first.current = .input →
      Alike Related (first.perform .input) (second.perform .input)) :
    Alike Related first.step.2 second.step.2 := by
  rcases first.step_cases with
    ⟨vector, waits, taken⟩ | ⟨quiet, halted, taken⟩ | ⟨quiet, running, taken⟩
  · rw [alike.cpu] at waits
    rw [taken, step_of_serviceable waits]
    exact (alike.service simulates vector).tick interruptCost
  · rw [alike.cpu] at quiet halted
    rw [taken, step_of_halted quiet halted]
    exact alike.tick idleCost
  · have performed := alike.perform simulates first.current (takes quiet running)
    rw [alike.cpu] at quiet running
    rw [taken, step_of_running quiet running, ← alike.current simulates, alike.cpu]
    exact performed.tick _

end

/-! ## Operations on buses that also give the same bytes from their ports -/

variable (simulates : Bus.Simulation Related)

include simulates

theorem input (alike : Alike Related first second) {port other : UInt8} (ports : port = other) :
    Alike Related
      ⟨{ first.cpu with a := (Bus.input first.bus port).1 }, (Bus.input first.bus port).2⟩
      ⟨{ second.cpu with a := (Bus.input second.bus other).1 },
        (Bus.input second.bus other).2⟩ := by
  obtain ⟨value, bus⟩ := simulates.input alike.bus other
  rw [ports]
  constructor
  · change { first.cpu with a := (Bus.input first.bus other).1 } = _
    rw [value, alike.cpu]
  · exact bus

theorem perform_input (alike : Alike Related first second) :
    Alike Related (first.perform .input) (second.perform .input) := by
  have start := congrArg Cpu.pc alike.cpu
  have moved := alike.jump (congrArg (· + Instruction.length .input) start)
  exact moved.input simulates
    (moved.read simulates.toMemorySimulation (congrArg (· + 1) start))

/-- A step takes the same time on both sides and does the same. -/
theorem step (alike : Alike Related first second) :
    first.step.1 = second.step.1 ∧ Alike Related first.step.2 second.step.2 :=
  ⟨alike.step_cost simulates.toMemorySimulation,
    alike.step_of_takes simulates.toMemorySimulation fun _ _ _ =>
      alike.perform_input simulates⟩

theorem stepsToSpend (alike : Alike Related first second) (budget spent : Nat) :
    first.stepsToSpend budget spent = second.stepsToSpend budget spent := by
  induction spent, first using @stepsToSpend.induct β _ budget generalizing second with
  | case1 spent first left ih =>
      obtain ⟨cost, next⟩ := alike.step simulates
      rw [stepsToSpend_of_lt first left, stepsToSpend_of_lt second left, ← cost, ih next]
  | case2 spent first done =>
      rw [stepsToSpend_of_le first (Nat.not_lt.mp done),
        stepsToSpend_of_le second (Nat.not_lt.mp done)]

/-- Spending a budget takes the same time on both sides and does the same. -/
theorem spend (alike : Alike Related first second) (budget spent : Nat) :
    (first.spend budget spent).1 = (second.spend budget spent).1 ∧
      Alike Related (first.spend budget spent).2 (second.spend budget spent).2 := by
  induction spent, first using @stepsToSpend.induct β _ budget generalizing second with
  | case1 spent first left ih =>
      obtain ⟨cost, after⟩ := alike.step simulates
      rw [spend_of_lt first left, spend_of_lt second left, ← cost]
      exact ih after
  | case2 spent first done =>
      rw [spend_of_le first (Nat.not_lt.mp done), spend_of_le second (Nat.not_lt.mp done)]
      exact ⟨rfl, alike⟩

end Alike

/-! ## What every operation on a bus preserves -/

/-- A property of buses that the processor cannot end. -/
structure BusInvariant {β : Type} [Bus β] (Holds : β → Prop) : Prop where
  write : ∀ {bus}, Holds bus → ∀ address value, Holds (Bus.write bus address value)
  input : ∀ {bus}, Holds bus → ∀ port, Holds (Bus.input bus port).2
  output : ∀ {bus}, Holds bus → ∀ port value, Holds (Bus.output bus port value)

/-- A bus with the property cannot be told from itself. -/
theorem BusInvariant.simulation [Bus β] {Holds : β → Prop} (invariant : BusInvariant Holds) :
    Bus.Simulation fun first second : β => first = second ∧ Holds second where
  read := by
    rintro first _ ⟨rfl, -⟩ address
    rfl
  write := by
    rintro first _ ⟨rfl, holds⟩ address value
    exact ⟨rfl, invariant.write holds address value⟩
  input := by
    rintro first _ ⟨rfl, holds⟩ port
    exact ⟨rfl, rfl, invariant.input holds port⟩
  output := by
    rintro first _ ⟨rfl, holds⟩ port value
    exact ⟨rfl, invariant.output holds port value⟩

theorem BusInvariant.step [Bus β] {Holds : β → Prop} (invariant : BusInvariant Holds)
    {machine : Machine β} (holds : Holds machine.bus) : Holds machine.step.2.bus := by
  have itself : Alike (fun first second : β => first = second ∧ Holds second) machine machine :=
    ⟨rfl, rfl, holds⟩
  exact (itself.step invariant.simulation).2.bus.2

end Machine

end Cabinet
